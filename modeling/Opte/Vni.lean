import Opte.Text

/-!
The Geneve Virtual Network Identifier of `opte-api` (`encap.rs`): a 24-bit value kept as
three bytes in network order. Its conversions to and from `u32`, its text forms and its
derived order are modelled as the code computes them, and shown to agree with the number
the bytes stand for, over every `u32` and every three bytes, serde-built ones included.
A Rust panic, the `unwrap` in `Default`, is the `none` outcome.
-/

namespace Opte

def beValue : List UInt8 → Nat
  | [] => 0
  | b :: rest => b.toNat * 256 ^ rest.length + beValue rest

theorem beValue_lt : ∀ bytes : List UInt8, beValue bytes < 256 ^ bytes.length
  | [] => by simp [beValue]
  | b :: rest => by
      have head : b.toNat + 1 ≤ 256 := b.toNat_lt_size
      have tail := beValue_lt rest
      calc beValue (b :: rest) = b.toNat * 256 ^ rest.length + beValue rest := rfl
        _ < (b.toNat + 1) * 256 ^ rest.length := by rw [Nat.succ_mul]; omega
        _ ≤ 256 * 256 ^ rest.length := Nat.mul_le_mul_right _ head
        _ = 256 ^ (b :: rest).length := by rw [List.length_cons, Nat.pow_succ, Nat.mul_comm]

def fromBeBytes (bytes : List UInt8) : UInt32 :=
  UInt32.ofNat (beValue bytes)

def toBeBytes (n : UInt32) : UInt8 × UInt8 × UInt8 × UInt8 :=
  (UInt8.ofNat (n.toNat / 2 ^ 24), UInt8.ofNat (n.toNat / 2 ^ 16),
    UInt8.ofNat (n.toNat / 2 ^ 8), UInt8.ofNat n.toNat)

def vniMax : UInt32 := 0x00FFFFFF

structure Vni where
  inner : List UInt8
  three : inner.length = 3
  deriving DecidableEq

namespace Vni

def toU32 (vni : Vni) : UInt32 :=
  fromBeBytes (0 :: vni.inner)

def asU32 (vni : Vni) : UInt32 :=
  fromBeBytes (0 :: vni.inner)

def bytes (vni : Vni) : List UInt8 :=
  vni.inner

def new (val : UInt32) : Except String Vni :=
  if val > vniMax then .error s!"VNI value exceeds maximum: {val}"
  else
    let (_, b1, b2, b3) := toBeBytes val
    .ok ⟨[b1, b2, b3], rfl⟩

def fromStr (val : String) : Except String Vni :=
  match u32FromStr val with
  | .error e => .error e.description
  | .ok n => new n

def fmt (vni : Vni) : String :=
  ⟨decimal vni.toU32.toNat⟩

def default : Option Vni :=
  match new 0 with
  | .ok vni => some vni
  | .error _ => none

def bytesCmp : List UInt8 → List UInt8 → Ordering
  | [], [] => .eq
  | [], _ :: _ => .lt
  | _ :: _, [] => .gt
  | a :: as, b :: bs => (compare a b).then (bytesCmp as bs)

def cmp (v w : Vni) : Ordering :=
  bytesCmp v.inner w.inner

theorem inner_eq (vni : Vni) : ∃ b0 b1 b2, vni.inner = [b0, b1, b2] := by
  match vni with
  | ⟨[b0, b1, b2], _⟩ => exact ⟨b0, b1, b2, rfl⟩

theorem ext_inner {v w : Vni} (same : v.inner = w.inner) : v = w := by
  cases v; cases w; simp only at same; simp [same]

theorem toU32_toNat (vni : Vni) : vni.toU32.toNat = beValue vni.inner := by
  have bound := beValue_lt vni.inner
  rw [vni.three] at bound
  simp only [toU32, fromBeBytes, beValue, UInt8.toNat_zero, Nat.zero_mul, Nat.zero_add]
  exact UInt32.toNat_ofNat_of_lt (by simp [UInt32.size]; omega)

theorem le_vniMax_iff (n : UInt32) : n ≤ vniMax ↔ n.toNat ≤ 0x00FFFFFF := by
  simp only [vniMax, UInt32.le_def, BitVec.le_def]; rfl

theorem toNat_ofNat_byte (n : Nat) : (UInt8.ofNat n).toNat = n % 256 := by
  simp [UInt8.ofNat, UInt8.toNat]

theorem new_ok_iff (n : UInt32) : (∃ v, new n = .ok v) ↔ n ≤ vniMax := by
  simp only [new, gt_iff_lt]
  split_ifs with over
  · simp only [false_iff, reduceCtorEq, exists_false]; exact UInt32.not_le.mpr over
  · simpa using over

theorem new_spec {n : UInt32} {v : Vni} (built : new n = .ok v) :
    v.toU32 = n ∧ v.asU32 = n ∧
      v.bytes.map UInt8.toNat = [n.toNat / 2 ^ 16 % 256, n.toNat / 2 ^ 8 % 256, n.toNat % 256] := by
  have fits : n ≤ vniMax := (new_ok_iff n).mp ⟨v, built⟩
  rw [le_vniMax_iff] at fits
  simp only [new, gt_iff_lt, toBeBytes] at built
  split_ifs at built
  have inner : v.inner =
      [UInt8.ofNat (n.toNat / 2 ^ 16), UInt8.ofNat (n.toNat / 2 ^ 8), UInt8.ofNat n.toNat] := by
    cases built; rfl
  have same : v.toU32 = n := by
    apply UInt32.toNat.inj
    rw [toU32_toNat, inner]
    simp only [beValue, List.length_cons, List.length_nil, toNat_ofNat_byte]
    omega
  exact ⟨same, same, by simp [bytes, inner, toNat_ofNat_byte]⟩

theorem toU32_le (vni : Vni) : vni.toU32 ≤ vniMax := by
  have bound := beValue_lt vni.inner
  rw [vni.three] at bound
  rw [le_vniMax_iff, toU32_toNat]
  omega

theorem new_toU32 (vni : Vni) : new vni.toU32 = .ok vni := by
  obtain ⟨b0, b1, b2, bytes⟩ := vni.inner_eq
  have value := vni.toU32_toNat
  rw [bytes] at value
  simp only [beValue, List.length_cons, List.length_nil] at value
  have fits : ¬ vni.toU32 > vniMax := UInt32.not_lt.mpr vni.toU32_le
  simp only [new, fits, if_false, toBeBytes, Except.ok.injEq]
  apply ext_inner
  rw [bytes]
  have low := b0.toNat_lt_size
  have middle := b1.toNat_lt_size
  have high := b2.toNat_lt_size
  simp only [UInt8.size] at low middle high
  simp only [List.cons.injEq, and_true]
  refine ⟨UInt8.toNat.inj ?_, UInt8.toNat.inj ?_, UInt8.toNat.inj ?_⟩ <;>
    simp only [toNat_ofNat_byte, value] <;> omega

theorem default_toU32 : ∃ vni, default = some vni ∧ vni.toU32 = 0 := by
  obtain ⟨vni, built⟩ := (new_ok_iff 0).mpr (by decide)
  exact ⟨vni, by simp [default, built], (new_spec built).1⟩

theorem fromStr_fmt (vni : Vni) : fromStr vni.fmt = .ok vni := by
  have read : fromStrRadix 32 10 (decimal vni.toU32.toNat) = .ok vni.toU32.toNat :=
    fromStrRadix_decimal vni.toU32.toNat_lt_size
  have back : UInt32.ofNat vni.toU32.toNat = vni.toU32 :=
    UInt32.toNat.inj (UInt32.toNat_ofNat_of_lt vni.toU32.toNat_lt_size)
  simp only [fromStr, fmt, u32FromStr, read, Except.map, back]
  exact new_toU32 vni

theorem fromStr_ok_iff (s : String) :
    (∃ v, fromStr s = .ok v) ↔ ∃ n, u32FromStr s = .ok n ∧ n ≤ vniMax := by
  unfold fromStr
  split
  · rename_i failed
    simp [failed]
  · rename_i parsed
    simp only [parsed, Except.ok.injEq, exists_eq_left', new_ok_iff]

/-- The VNI encodings round-trip, over every `u32`, every three bytes and every string. -/
theorem vni_encodings_roundTrip :
    (∀ n : UInt32, (∃ v, new n = .ok v) ↔ n ≤ vniMax) ∧
    (∀ (n : UInt32) (v : Vni), new n = .ok v → v.toU32 = n ∧ v.asU32 = n ∧
      v.bytes.map UInt8.toNat = [n.toNat / 2 ^ 16 % 256, n.toNat / 2 ^ 8 % 256, n.toNat % 256]) ∧
    (∀ v : Vni, v.toU32 ≤ vniMax ∧ new v.toU32 = .ok v ∧ fromStr v.fmt = .ok v) ∧
    (∀ s : String, (∃ v, fromStr s = .ok v) ↔ ∃ n, u32FromStr s = .ok n ∧ n ≤ vniMax) :=
  ⟨new_ok_iff, fun _ _ => new_spec, fun v => ⟨v.toU32_le, v.new_toU32, v.fromStr_fmt⟩,
    fromStr_ok_iff⟩

theorem compare_eq_compare_toNat {α : Type} [Ord α] [LT α] [DecidableRel fun a b : α => a < b]
    [DecidableEq α] {toNat : α → Nat} (ord : ∀ a b : α, compare a b = compareOfLessAndEq a b)
    (inj : ∀ {a b : α}, toNat a = toNat b → a = b) (lt : ∀ {a b : α}, a < b ↔ toNat a < toNat b)
    (a b : α) : compare a b = compare (toNat a) (toNat b) := by
  have equal : a = b ↔ toNat a = toNat b := ⟨congrArg _, inj⟩
  rw [ord]
  simp only [compareOfLessAndEq, lt, equal]
  rfl

theorem compare_mul_add {a b x y P : Nat} (lowX : x < P) (lowY : y < P) :
    compare (a * P + x) (b * P + y) = (compare a b).then (compare x y) := by
  rcases Nat.lt_trichotomy a b with less | same | more
  · have step : a * P + P ≤ b * P := by rw [← Nat.succ_mul]; exact Nat.mul_le_mul_right P less
    rw [Nat.compare_eq_lt.mpr less, Nat.compare_eq_lt.mpr (by omega)]
    rfl
  · subst same
    rw [Nat.compare_eq_eq.mpr rfl]
    rcases Nat.lt_trichotomy x y with low | rfl | high
    · rw [Nat.compare_eq_lt.mpr low, Nat.compare_eq_lt.mpr (by omega)]; rfl
    · rw [Nat.compare_eq_eq.mpr rfl, Nat.compare_eq_eq.mpr rfl]; rfl
    · rw [Nat.compare_eq_gt.mpr high, Nat.compare_eq_gt.mpr (by omega)]; rfl
  · have step : b * P + P ≤ a * P := by rw [← Nat.succ_mul]; exact Nat.mul_le_mul_right P more
    rw [Nat.compare_eq_gt.mpr more, Nat.compare_eq_gt.mpr (by omega)]
    rfl

theorem bytesCmp_eq_compare : ∀ as bs : List UInt8, as.length = bs.length →
    bytesCmp as bs = compare (beValue as) (beValue bs)
  | [], [], _ => rfl
  | a :: as, b :: bs, same => by
      simp only [List.length_cons, Nat.add_right_cancel_iff] at same
      have tail : beValue bs < 256 ^ as.length := by rw [same]; exact beValue_lt bs
      rw [bytesCmp, beValue, beValue, ← same, compare_mul_add (beValue_lt as) tail,
        compare_eq_compare_toNat (fun _ _ => rfl) UInt8.toNat.inj Iff.rfl,
        bytesCmp_eq_compare as bs same]

theorem bytesCmp_eq_iff : ∀ as bs : List UInt8, bytesCmp as bs = .eq ↔ as = bs
  | [], [] => by simp [bytesCmp]
  | [], _ :: _ => by simp [bytesCmp]
  | _ :: _, [] => by simp [bytesCmp]
  | a :: as, b :: bs => by
      rw [bytesCmp, compare_eq_compare_toNat (fun _ _ => rfl) UInt8.toNat.inj Iff.rfl,
        List.cons.injEq, ← bytesCmp_eq_iff as bs]
      rcases Nat.lt_trichotomy a.toNat b.toNat with less | same | more
      · simp [Nat.compare_eq_lt.mpr less, Ordering.then, Nat.ne_of_lt less, UInt8.toNat.inj]
        exact fun equal => absurd (congrArg UInt8.toNat equal) (Nat.ne_of_lt less)
      · obtain rfl : a = b := UInt8.toNat.inj same
        simp [Nat.compare_eq_eq.mpr rfl, Ordering.then]
      · simp [Nat.compare_eq_gt.mpr more, Ordering.then]
        exact fun equal => absurd (congrArg UInt8.toNat equal) (Nat.ne_of_gt more)

/-- The derived order of `Vni` is the order of the VNI values, and so is its equality. -/
theorem cmp_eq_compare_toU32 (v w : Vni) :
    v.cmp w = compare v.toU32 w.toU32 ∧ (v = w ↔ v.toU32 = w.toU32) := by
  have order : v.cmp w = compare v.toU32 w.toU32 := by
    rw [cmp, compare_eq_compare_toNat (fun _ _ => rfl) UInt32.toNat.inj Iff.rfl, toU32_toNat,
      toU32_toNat, bytesCmp_eq_compare _ _ (by rw [v.three, w.three])]
  refine ⟨order, fun same => same ▸ rfl, fun same => ext_inner ?_⟩
  rw [← bytesCmp_eq_iff, ← cmp, order, same,
    compare_eq_compare_toNat (fun _ _ => rfl) UInt32.toNat.inj Iff.rfl, Nat.compare_eq_eq.mpr rfl]

end Vni

end Opte
