import DeepGemmRs.Abi.DType
import DeepGemmRs.Abi.Device
import DeepGemmRs.Abi.Error
import DeepGemmRs.Abi.Tensor
import DeepGemmRs.CApi.Exact
import DeepGemmRs.CApi.Layout
import DeepGemmRs.CApi.Sound
import DeepGemmRs.Candle.Gemm
import DeepGemmRs.Candle.GemmPipeline
import DeepGemmRs.Candle.Mqa
import DeepGemmRs.Candle.MqaPipeline
import DeepGemmRs.Candle.Paged
import DeepGemmRs.Candle.PagedPipeline
import DeepGemmRs.Candle.Tensor
import DeepGemmRs.Crate.Checks
import DeepGemmRs.Crate.Gemm
import DeepGemmRs.Crate.Mqa
import DeepGemmRs.Crate.Paged
import DeepGemmRs.Crate.Runtime
import DeepGemmRs.Crate.Settled
import DeepGemmRs.Jit.Build
import DeepGemmRs.Jit.Cache
import DeepGemmRs.Jit.Command
import DeepGemmRs.Jit.ConfigRace
import DeepGemmRs.Jit.Delivered
import DeepGemmRs.Jit.DeviceSwitch
import DeepGemmRs.Jit.History
import DeepGemmRs.Jit.Hook
import DeepGemmRs.Jit.KernelRace
import DeepGemmRs.Jit.Materialization
import DeepGemmRs.Jit.Names
import DeepGemmRs.Jit.Provenance
import DeepGemmRs.Jit.Publish
import DeepGemmRs.Jit.Rebuild
import DeepGemmRs.Lib.Announced
import DeepGemmRs.Lib.Arith
import DeepGemmRs.Lib.Binary32
import DeepGemmRs.Lib.Checked
import DeepGemmRs.Lib.Dirs
import DeepGemmRs.Lib.Ghost
import DeepGemmRs.Lib.Grid
import DeepGemmRs.Lib.Logged
import DeepGemmRs.Lib.MachineInt
import DeepGemmRs.Lib.Mirrored
import DeepGemmRs.Lib.MixedRadix
import DeepGemmRs.Lib.Pages
import DeepGemmRs.Lib.Rounding
import DeepGemmRs.Lib.Runs
import DeepGemmRs.Lib.Search
import DeepGemmRs.Lib.Shell
import DeepGemmRs.Lib.Stateful
import DeepGemmRs.Lib.Steps
import DeepGemmRs.Lib.Streamed
import DeepGemmRs.Lib.Strided
import DeepGemmRs.Raw.Attributes
import DeepGemmRs.Raw.Broadcast
import DeepGemmRs.Raw.Builds
import DeepGemmRs.Raw.Checks
import DeepGemmRs.Raw.Enqueue
import DeepGemmRs.Raw.Footprint
import DeepGemmRs.Raw.FusedCache
import DeepGemmRs.Raw.Gemm
import DeepGemmRs.Raw.GemmChecked
import DeepGemmRs.Raw.GemmConfig
import DeepGemmRs.Raw.GemmStrides
import DeepGemmRs.Raw.GemmTotal
import DeepGemmRs.Raw.KernelText
import DeepGemmRs.Raw.Launch
import DeepGemmRs.Raw.Limits
import DeepGemmRs.Raw.Mqa
import DeepGemmRs.Raw.MqaChecked
import DeepGemmRs.Raw.MqaExact
import DeepGemmRs.Raw.MqaLaunch
import DeepGemmRs.Raw.MqaTotal
import DeepGemmRs.Raw.NumSms
import DeepGemmRs.Raw.Resources
import DeepGemmRs.Raw.Sm100Choice
import DeepGemmRs.Raw.Sm90Choice
import DeepGemmRs.Raw.Transform
import DeepGemmRs.Refine.Contiguity
import DeepGemmRs.Refine.Gemm
import DeepGemmRs.Refine.GemmLaunch
import DeepGemmRs.Refine.Mqa
import DeepGemmRs.Refine.MqaLaunch
import DeepGemmRs.Refine.Paged
import DeepGemmRs.Refine.PagedLaunch
import DeepGemmRs.Refine.Settled
import DeepGemmRs.Refine.Tensors
