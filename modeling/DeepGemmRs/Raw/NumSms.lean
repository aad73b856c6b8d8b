import DeepGemmRs.Crate.Runtime
import DeepGemmRs.Raw.MqaExact
import DeepGemmRs.Raw.Transform

/-!
# The number of SMs of a launch

`set_num_sms_override` bounds the override by the device that is current when it is called; the override
is one for all devices.

* `setNumSmsOverride` : the call; `Settings`, `step`, `run` : calls and changes of the current device;
* `launchGemmNt_grid`, `launchMqaLogits_grid`, `launchPagedMqaLogits_grid` : the grid of a launch;
* `good_iff` : one state, `numSms_inDevice_iff` : every state of a run.
-/

namespace DeepGemmRs.Raw

open Checked MachineInt

/-! ## Grids -/

/-- The number of SMs that a paged launch was asked for. -/
def PagedMqaDispatch.numSms : PagedMqaDispatch → Int
  | .sm90 args => args.numSms
  | .sm100 _ args => args.numSms

/-- The number of SMs of a metadata kernel, which has a single block. -/
def MetadataDispatch.numSms : MetadataDispatch → Int
  | .sm90 _ _ numSms _ => numSms
  | .sm100 _ _ numSms _ => numSms

/-- The number of SMs that a GEMM is launched for. -/
def Gemm.GemmDispatch.numSms : Gemm.GemmDispatch → Int
  | .sm90 _ numSms _ => numSms
  | .sm100 _ numSms _ => numSms

section

variable {numSms : Int} {pdl : Bool}

/-- The launch has that many blocks. -/
def HasGrid (numSms : Int) (launch : Launch) : Prop := launch.config.gridDimX = u32.cast numSms

theorem launchKernel_grid (kernel : String) (stream : Ptr) (launchArgs : LaunchArgs) (args : List KernelArg) :
    Ensures (HasGrid launchArgs.gridX) (launchKernel .machine kernel stream launchArgs args) :=
  fun _ h => (launchKernel_ok h).2.2.1

theorem launchSm90Fp8MqaLogits_grid (params : MqaLogitsParams) (args : MqaArgs) :
    Ensures (HasGrid numSms) (launchSm90Fp8MqaLogits .machine params args numSms pdl) := by
  unfold launchSm90Fp8MqaLogits
  iterate 15 refine Ensures.bind fun _ => ?_
  apply launchKernel_grid

theorem launchSm100MqaLogits_grid (params : MqaLogitsParams) (isFp4 : Bool) (args : MqaArgs) :
    Ensures (HasGrid numSms) (launchSm100MqaLogits .machine params isFp4 args numSms pdl) := by
  unfold launchSm100MqaLogits
  iterate 7 refine Ensures.bind fun _ => ?_
  apply launchKernel_grid

theorem launchCleanLogits_grid (params : MqaLogitsParams) (args : MqaArgs) :
    Ensures (HasGrid numSms) (launchCleanLogits .machine params args numSms pdl) := by
  unfold launchCleanLogits
  iterate 5 refine Ensures.bind fun _ => ?_
  apply launchKernel_grid

theorem launchCleanIfAsked_grid {params : MqaLogitsParams} {args : MqaArgs} {first : Launch}
    (h : HasGrid numSms first) :
    Ensures (fun launches => ∀ launch ∈ launches, HasGrid numSms launch)
      (launchCleanIfAsked .machine params args numSms pdl first) := by
  unfold launchCleanIfAsked
  refine Ensures.ite ?_ ?_
  · intro launches hl
    obtain ⟨clean, hclean, he⟩ := bind_eq_ok.mp hl
    cases he
    simpa using ⟨h, launchCleanLogits_grid params args clean hclean⟩
  · refine Ensures.ok ?_
    simpa using h

/-- Every kernel of MQA logits has one block for each SM. -/
theorem launchMqaLogits_grid (params : MqaLogitsParams) (dispatch : MqaDispatch) :
    Ensures (fun launches => ∀ launch ∈ launches, HasGrid numSms launch)
      (launchMqaLogits .machine params numSms pdl dispatch) := by
  intro launches hl
  cases dispatch with
  | sm90 args =>
    obtain ⟨first, hfirst, hclean⟩ := bind_eq_ok.mp hl
    exact launchCleanIfAsked_grid (launchSm90Fp8MqaLogits_grid params args first hfirst) launches hclean
  | sm100 isFp4 args =>
    obtain ⟨first, hfirst, hclean⟩ := bind_eq_ok.mp hl
    exact launchCleanIfAsked_grid (launchSm100MqaLogits_grid params isFp4 args first hfirst) launches hclean

theorem launchPagedMqaLogits_grid (params : PagedMqaLogitsParams) (dispatch : PagedMqaDispatch) :
    Ensures (HasGrid dispatch.numSms) (launchPagedMqaLogits .machine params pdl dispatch) := by
  cases dispatch with
  | sm90 args =>
    unfold launchPagedMqaLogits launchSm90Fp8PagedMqaLogits
    iterate 18 refine Ensures.bind fun _ => ?_
    apply launchKernel_grid
  | sm100 isFp4 args =>
    unfold launchPagedMqaLogits launchSm100PagedMqaLogits
    iterate 14 refine Ensures.bind fun _ => ?_
    apply launchKernel_grid

theorem launchGemmNt_grid (params : Gemm.Fp8GemmNtParams) (dispatch : Gemm.GemmDispatch) :
    Ensures (HasGrid dispatch.numSms) (Gemm.launchGemmNt params pdl dispatch) := by
  cases dispatch with
  | sm90 dims numSms config =>
    unfold Gemm.launchGemmNt Gemm.launchSm90Fp8GemmNt
    iterate 4 refine Ensures.bind fun _ => ?_
    apply launchKernel_grid
  | sm100 dims numSms config =>
    unfold Gemm.launchGemmNt Gemm.launchSm100Fp8GemmNt
    iterate 5 refine Ensures.bind fun _ => ?_
    apply launchKernel_grid

theorem dispatchFp8GemmNt_numSms {runtime : Runtime} {params : Gemm.Fp8GemmNtParams} :
    Ensures (fun dispatch => runtime.effectiveNumSms = .ok dispatch.numSms) (Gemm.dispatchFp8GemmNt runtime params) := by
  intro dispatch h
  simp only [Gemm.dispatchFp8GemmNt, bind_eq_ok] at h
  obtain ⟨dims, -, m, -, n, -, k, -, numSms, hsms, device, -, h⟩ := h
  rw [hsms]
  split at h
  · simp only [bind_eq_ok, Except.ok.injEq] at h
    obtain ⟨_, -, _, -, rfl⟩ := h
    rfl
  · split at h
    · simp only [bind_eq_ok, Except.ok.injEq] at h
      obtain ⟨_, -, _, -, rfl⟩ := h
      rfl
    · cases h

end

/-! ## Runs -/

/-- `set_num_sms_override`. -/
def setNumSmsOverride (runtime : Runtime) (numSms : I32) : Native Runtime := do
  throwIf (numSms.val < 0) (.invalid "num_sms must be non-negative")
  if numSms.val > 0 then do
    let info ← runtime.currentDeviceInfo
    throwIf (numSms.val > info.numSms.val) (.invalid "num_sms exceeds current device SM count")
    .ok { runtime with numSmsOverride := numSms }
  else .ok { runtime with numSmsOverride := numSms }

/-- The current device and the override. -/
structure Settings where
  device : DeviceInfo
  numSmsOverride : I32

/-- The runtime that a call finds. -/
def Settings.runtime (s : Settings) (pdl : Bool) : Runtime := ⟨.ok s.device, s.numSmsOverride, pdl⟩

inductive SmsEvent where
  | setNumSms (numSms : I32)
  | setDevice (device : DeviceInfo)

namespace Settings

/-- A call that fails changes nothing. -/
def step (s : Settings) : SmsEvent → Settings
  | .setNumSms numSms =>
    match setNumSmsOverride (s.runtime false) numSms with
    | .ok runtime => { s with numSmsOverride := runtime.numSmsOverride }
    | .error _ => s
  | .setDevice device => { s with device }

def run (s : Settings) (events : List SmsEvent) : Settings := events.foldl step s

/-- A number of SMs that the current device has. -/
def InDevice (s : Settings) (numSms : Int) : Prop := 0 < numSms ∧ numSms ≤ s.device.numSms

/-- The effective number of SMs, and that of every launch, is one of the current device. -/
structure Good (s : Settings) : Prop where
  effective : ∀ pdl, ∃ numSms, (s.runtime pdl).effectiveNumSms = .ok numSms ∧ s.InDevice numSms
  gemm : ∀ pdl params dispatch launch, Gemm.dispatchFp8GemmNt (s.runtime pdl) params = .ok dispatch →
    Gemm.launchGemmNt params pdl dispatch = .ok launch →
    launch.config.gridDimX = dispatch.numSms ∧ s.InDevice dispatch.numSms
  mqa : ∀ pdl params dispatch numSms launches, dispatchMqaLogits s.device params = .ok dispatch →
    (s.runtime pdl).effectiveNumSms = .ok numSms → launchMqaLogits .machine params numSms pdl dispatch = .ok launches →
    (∀ launch ∈ launches, launch.config.gridDimX = numSms) ∧ s.InDevice numSms
  metadata : ∀ params dispatch, dispatchPagedMqaLogitsMetadata s.device params = .ok dispatch →
    s.InDevice dispatch.numSms
  paged : ∀ pdl params dispatch launch, dispatchPagedMqaLogits s.device params = .ok dispatch →
    launchPagedMqaLogits .machine params pdl dispatch = .ok launch →
    launch.config.gridDimX = dispatch.numSms ∧ s.InDevice dispatch.numSms

/-- What an event meets: a device that replaces another has as many SMs as the override asks for. -/
def Fits (s : Settings) : SmsEvent → Prop
  | .setNumSms _ => True
  | .setDevice device => s.numSmsOverride.val = 0 ∨ s.numSmsOverride.val ≤ device.numSms

variable {s : Settings} {numSms : Int}

theorem cast_of_inDevice (h : s.InDevice numSms) : u32.cast numSms = numSms := by
  have hle := h.2.trans s.device.numSms.2.2
  simp only [i32] at hle
  exact IntType.cast_of_has (has_u32.mpr ⟨h.1.le, by omega⟩)

/-- A state whose override fits is good, whatever is launched. -/
theorem good_of_le (hpos : 0 < s.device.numSms.val) (h : s.numSmsOverride.val ≤ s.device.numSms.val) : s.Good := by
  have heffective : ∀ pdl, ∃ numSms, (s.runtime pdl).effectiveNumSms = .ok numSms ∧ s.InDevice numSms := by
    intro pdl
    unfold Runtime.effectiveNumSms
    by_cases ho : s.numSmsOverride.val > 0
    · exact ⟨_, if_pos ho, ho, h⟩
    · exact ⟨_, if_neg ho, hpos, le_rfl⟩
  have hin : ∀ {pdl numSms}, (s.runtime pdl).effectiveNumSms = .ok numSms → s.InDevice numSms := by
    intro pdl numSms hsms
    obtain ⟨n, hn, hdevice⟩ := heffective pdl
    rw [hsms] at hn
    cases hn
    exact hdevice
  refine ⟨heffective, ?_, ?_, ?_, ?_⟩
  · intro pdl params dispatch launch hdispatch hlaunch
    have hdevice := hin (dispatchFp8GemmNt_numSms dispatch hdispatch)
    exact ⟨(launchGemmNt_grid params dispatch launch hlaunch).trans (cast_of_inDevice hdevice), hdevice⟩
  · intro pdl params dispatch numSms launches hdispatch hsms hlaunch
    have hdevice := hin hsms
    exact ⟨fun launch hl => (launchMqaLogits_grid params dispatch launches hlaunch launch hl).trans
      (cast_of_inDevice hdevice), hdevice⟩
  · intro params dispatch hdispatch
    obtain ⟨hc, -⟩ := dispatchPagedMqaLogitsMetadata_eq_ok.mp hdispatch
    have hsms : dispatch.numSms = params.numSms := by
      rcases (metadataValid hdispatch).dispatch with ⟨-, rfl⟩ | ⟨-, rfl⟩ <;> rfl
    exact hsms ▸ ⟨hc.numSmsPos, hc.deviceSms⟩
  · intro pdl params dispatch launch hdispatch hlaunch
    obtain ⟨hc, -⟩ := dispatchPagedMqaLogits_eq_ok.mp hdispatch
    have hsms : dispatch.numSms = params.numSms := by
      rcases (pagedValid hdispatch).dispatch with ⟨rfl, -⟩ | rfl <;> rfl
    have hdevice : s.InDevice dispatch.numSms := hsms ▸ hc.numSms
    exact ⟨(launchPagedMqaLogits_grid params dispatch launch hlaunch).trans (cast_of_inDevice hdevice), hdevice⟩

theorem good_iff (hpos : 0 < s.device.numSms.val) : s.Good ↔ s.numSmsOverride.val ≤ s.device.numSms.val := by
  refine ⟨fun h => ?_, good_of_le hpos⟩
  obtain ⟨numSms, hsms, hdevice⟩ := h.effective false
  by_cases ho : s.numSmsOverride.val > 0
  · rw [Runtime.effectiveNumSms, show (s.runtime false).numSmsOverride = s.numSmsOverride from rfl, if_pos ho] at hsms
    cases hsms
    exact hdevice.2
  · omega

/-- The events come from devices that have SMs. -/
def Positive : SmsEvent → Prop
  | .setNumSms _ => True
  | .setDevice device => 0 < device.numSms.val

theorem setNumSmsOverride_le {runtime : Runtime} {info : DeviceInfo} {numSms : I32} (hinfo : runtime.currentDeviceInfo = .ok info)
    (hpos : 0 < info.numSms.val) :
    Ensures (fun runtime' => 0 ≤ runtime'.numSmsOverride.val ∧ runtime'.numSmsOverride.val ≤ info.numSms.val)
      (setNumSmsOverride runtime numSms) := by
  intro runtime' h
  simp only [setNumSmsOverride, bind_eq_ok, throwIf_eq_ok, exists_const, not_lt] at h
  obtain ⟨h0, h⟩ := h
  split at h
  · simp only [hinfo, ok_bind, bind_eq_ok, throwIf_eq_ok, exists_const, not_lt, Except.ok.injEq] at h
    obtain ⟨hle, rfl⟩ := h
    exact ⟨h0, hle⟩
  · cases h
    exact ⟨h0, by show numSms.val ≤ _; omega⟩

/-- A call changes nothing, or leaves an override that the current device has. -/
theorem step_setNumSms (hpos : 0 < s.device.numSms.val) (numSms : I32) :
    s.step (.setNumSms numSms) = s ∨ ∃ override : I32, s.step (.setNumSms numSms) = { s with numSmsOverride := override } ∧
      0 ≤ override.val ∧ override.val ≤ s.device.numSms.val := by
  simp only [step]
  split
  · next runtime hset => exact .inr ⟨runtime.numSmsOverride, rfl, setNumSmsOverride_le rfl hpos runtime hset⟩
  · exact .inl rfl

/-- The overrides that the calls leave are not negative. -/
structure Reached (s : Settings) : Prop where
  sms : 0 < s.device.numSms.val
  override : 0 ≤ s.numSmsOverride.val

theorem Reached.step (h : Reached s) {e : SmsEvent} (he : Positive e) : Reached (s.step e) := by
  cases e with
  | setDevice device => exact ⟨he, h.override⟩
  | setNumSms numSms =>
    rcases step_setNumSms h.sms numSms with hs | ⟨override, hs, h0, -⟩
    · rwa [hs]
    · rw [hs]
      exact ⟨h.sms, h0⟩

/-- After a change of the device the state is good when the event fitted; a call keeps it good. -/
theorem good_step (h : Reached s) {e : SmsEvent} (he : Positive e) :
    (Fits s e → s.Good → (s.step e).Good) ∧ ((s.step e).Good → Fits s e) := by
  cases e with
  | setDevice device =>
    have hiff : (s.step (.setDevice device)).Good ↔ s.numSmsOverride.val ≤ device.numSms.val := good_iff he
    have hd : 0 < device.numSms.val := he
    refine ⟨fun hfits _ => hiff.mpr ?_, fun hgood => .inr (hiff.mp hgood)⟩
    rcases hfits with h0 | hle
    · omega
    · exact hle
  | setNumSms numSms =>
    refine ⟨fun _ hgood => ?_, fun _ => trivial⟩
    rcases step_setNumSms h.sms numSms with hs | ⟨override, hs, -, hle⟩
    · rwa [hs]
    · rw [hs]
      exact good_of_le h.sms hle

theorem Reached.run (h : Reached s) {events : List SmsEvent} (he : ∀ e ∈ events, Positive e) : Reached (s.run events) := by
  induction events using List.reverseRecOn with
  | nil => exact h
  | append_singleton events e ih =>
    rw [Settings.run, List.foldl_append]
    exact (ih fun e' he' => he e' (List.mem_append_left _ he')).step (he e (List.mem_append_right _ (List.mem_singleton.mpr rfl)))

/-- **The number of SMs is one of the current device in every state of a run, exactly when no change of the
device leaves an override that is too large for it.** -/
theorem numSms_inDevice_iff (hpos : 0 < s.device.numSms.val) (h0 : s.numSmsOverride.val = 0) {events : List SmsEvent}
    (he : ∀ e ∈ events, Positive e) :
    (∀ before, before <+: events → (s.run before).Good) ↔
      ∀ before e, before ++ [e] <+: events → (s.run before).Fits e := by
  have hreached : ∀ before, before <+: events → Reached (s.run before) := fun before hb =>
    Reached.run ⟨hpos, h0.ge⟩ fun e hm => he e (hb.subset hm)
  have hstep : ∀ before e, before ++ [e] <+: events →
      s.run (before ++ [e]) = (s.run before).step e ∧ before <+: events ∧ Positive e := by
    intro before e hb
    refine ⟨?_, (List.prefix_append before [e]).trans hb, he e (hb.subset (List.mem_append_right _ (List.mem_singleton.mpr rfl)))⟩
    rw [Settings.run, List.foldl_append]
    rfl
  constructor
  · intro hgood before e hb
    obtain ⟨hrun, hbefore, hpositive⟩ := hstep before e hb
    exact (good_step (hreached before hbefore) hpositive).2 (hrun ▸ hgood _ hb)
  · intro hfits before
    induction before using List.reverseRecOn with
    | nil => exact fun _ => good_of_le hpos (h0.le.trans hpos.le)
    | append_singleton before e ih =>
      intro hb
      obtain ⟨hrun, hbefore, hpositive⟩ := hstep before e hb
      rw [hrun]
      exact (good_step (hreached before hbefore) hpositive).1 (hfits before e hb) (ih hbefore)

end Settings

/-- A slice of an H100 with 16 SMs. -/
def slice : DeviceInfo := ⟨1, 9, 0, 16⟩

/-- An H100 before any call. -/
def atStart : Settings := ⟨h100, 0⟩

/-- An override for the H100 outlives the switch to the slice. -/
theorem override_outlives_device :
    let s := atStart.run [.setNumSms ⟨132, by decide⟩, .setDevice slice]
    (s.runtime false).effectiveNumSms = .ok 132 ∧ s.device.numSms.val = 16 ∧ ¬ s.Good := by
  refine ⟨rfl, rfl, fun h => ?_⟩
  obtain ⟨numSms, hsms, -, hle⟩ := h.effective false
  cases hsms
  exact absurd hle (by decide)

theorem override_cleared :
    (∀ before, before <+: [SmsEvent.setNumSms ⟨132, by decide⟩, .setNumSms ⟨0, by decide⟩, .setDevice slice] →
      (atStart.run before).Good) ↔
    ∀ before e, before ++ [e] <+: [SmsEvent.setNumSms ⟨132, by decide⟩, .setNumSms ⟨0, by decide⟩, .setDevice slice] →
      (atStart.run before).Fits e :=
  Settings.numSms_inDevice_iff (by decide) rfl (by simp [Settings.Positive, slice]; decide)

end DeepGemmRs.Raw
