/-!
# Element dtypes on both sides of the C ABI

* `DType` : `deepgemm::DType`, with `elementSize` and the name its `Debug` prints;
* `DTypeCode` : `deepgemm_dtype_t`, a C `int` that may hold no dtype at all;
* `DType.toSys`, `DType.fromSys` : the conversions.
-/

namespace DeepGemmRs

/-- `deepgemm::DType`. -/
inductive DType where
  | fp8E4M3
  | packedFp4E2M1
  | packedUe8M0
  | f32
  | bf16
  | i32
  | u8
deriving DecidableEq, Repr

/-- `deepgemm_dtype_t`. -/
abbrev DTypeCode : Type := Int

namespace DTypeCode

abbrev invalid : DTypeCode := 0
abbrev fp8E4M3 : DTypeCode := 1
abbrev packedFp4E2M1 : DTypeCode := 2
abbrev packedUe8M0 : DTypeCode := 3
abbrev f32 : DTypeCode := 4
abbrev bf16 : DTypeCode := 5
abbrev i32 : DTypeCode := 6
abbrev u8 : DTypeCode := 7

/-- The table of `dtype_size` and of `dtype_element_size`; `0` where the code is no dtype. -/
def storageSize (dtype : DTypeCode) : Int :=
  if dtype = fp8E4M3 ∨ dtype = packedFp4E2M1 ∨ dtype = u8 then 1
  else if dtype = bf16 then 2
  else if dtype = packedUe8M0 ∨ dtype = f32 ∨ dtype = i32 then 4
  else 0

end DTypeCode

namespace DType

/-- `DType::element_size`. -/
def elementSize : DType → Nat
  | fp8E4M3 | packedFp4E2M1 | u8 => 1
  | bf16 => 2
  | packedUe8M0 | f32 | i32 => 4

/-- The derived `Debug`. -/
def debug : DType → String
  | fp8E4M3 => "Fp8E4M3"
  | packedFp4E2M1 => "PackedFp4E2M1"
  | packedUe8M0 => "PackedUe8M0"
  | f32 => "F32"
  | bf16 => "BF16"
  | i32 => "I32"
  | u8 => "U8"

/-- `DType::to_sys`. -/
def toSys : DType → DTypeCode
  | fp8E4M3 => DTypeCode.fp8E4M3
  | packedFp4E2M1 => DTypeCode.packedFp4E2M1
  | packedUe8M0 => DTypeCode.packedUe8M0
  | f32 => DTypeCode.f32
  | bf16 => DTypeCode.bf16
  | i32 => DTypeCode.i32
  | u8 => DTypeCode.u8

/-- `DType::from_sys`. -/
def fromSys (dtype : DTypeCode) : Option DType :=
  if dtype = DTypeCode.fp8E4M3 then some fp8E4M3
  else if dtype = DTypeCode.packedFp4E2M1 then some packedFp4E2M1
  else if dtype = DTypeCode.packedUe8M0 then some packedUe8M0
  else if dtype = DTypeCode.f32 then some f32
  else if dtype = DTypeCode.bf16 then some bf16
  else if dtype = DTypeCode.i32 then some i32
  else if dtype = DTypeCode.u8 then some u8
  else none

@[simp] theorem fromSys_toSys (d : DType) : fromSys d.toSys = some d := by cases d <;> rfl

theorem toSys_of_fromSys {dtype : DTypeCode} {d : DType} (h : fromSys dtype = some d) : d.toSys = dtype := by
  unfold fromSys at h
  repeat' split at h
  all_goals cases h
  all_goals rename_i e; exact e.symm

theorem toSys_injective {d e : DType} (h : d.toSys = e.toSys) : d = e := by
  have := congrArg fromSys h
  simpa using this

@[simp] theorem toSys_inj {d e : DType} : d.toSys = e.toSys ↔ d = e :=
  ⟨toSys_injective, congrArg toSys⟩

/-- Both sides agree on the size of an element. -/
theorem storageSize_toSys (d : DType) : DTypeCode.storageSize d.toSys = d.elementSize := by
  cases d <;> rfl

end DType

end DeepGemmRs
