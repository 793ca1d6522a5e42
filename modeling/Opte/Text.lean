import Mathlib.Tactic

/-!
The pieces of Rust's `core` text handling that the modelled code calls: `str::split_once`
with a one-character pattern, `from_str` of the unsigned integer types, and the decimal
`Display` of those types. Text is a list of characters, as `&str` is a sequence of them.
The main result is the round trip of `Display` through `from_str`.
-/

namespace Opte

def splitOnce (sep : Char) : List Char → Option (List Char × List Char)
  | [] => none
  | c :: rest =>
      if c = sep then some ([], rest)
      else (splitOnce sep rest).map fun (before, after) => (c :: before, after)

theorem splitOnce_append {sep : Char} {tag : List Char} (absent : sep ∉ tag)
    (rest : List Char) : splitOnce sep (tag ++ sep :: rest) = some (tag, rest) := by
  induction tag with
  | nil => simp [splitOnce]
  | cons c tag ih =>
      simp only [List.mem_cons, not_or] at absent
      simp [splitOnce, Ne.symm absent.1, ih absent.2]

theorem exceptMap_eq_ok {ε α β : Type} {f : α → β} {x : Except ε α} {b : β} :
    x.map f = .ok b ↔ ∃ a, x = .ok a ∧ f a = b := by
  cases x <;> simp [Except.map]

inductive IntErrorKind
  | empty
  | invalidDigit
  | posOverflow
  deriving DecidableEq, Repr

def IntErrorKind.description : IntErrorKind → String
  | .empty => "cannot parse integer from empty string"
  | .invalidDigit => "invalid digit found in string"
  | .posOverflow => "number too large to fit in target type"

def toDigit (radix : Nat) (c : Char) : Option Nat :=
  let n := c.toNat
  if 48 ≤ n ∧ n - 48 < 10 then
    if n - 48 < radix then some (n - 48) else none
  else if 10 < radix ∧ 97 ≤ n ||| 32 ∧ (n ||| 32) - 97 + 10 < radix then
    some ((n ||| 32) - 97 + 10)
  else none

def accumulate (width radix : Nat) : List Char → Nat → Except IntErrorKind Nat
  | [], result => .ok result
  | c :: rest, result =>
      match toDigit radix c with
      | none => .error .invalidDigit
      | some x =>
          if result * radix < 2 ^ width then
            if result * radix + x < 2 ^ width then accumulate width radix rest (result * radix + x)
            else .error .posOverflow
          else .error .posOverflow

def fromStrRadix (width radix : Nat) : List Char → Except IntErrorKind Nat
  | [] => .error .empty
  | c :: rest =>
      if (c = '+' ∨ c = '-') ∧ rest = [] then .error .invalidDigit
      else if c = '+' then accumulate width radix rest 0
      else accumulate width radix (c :: rest) 0

def u32FromStr (s : String) : Except IntErrorKind UInt32 :=
  (fromStrRadix 32 10 s.data).map UInt32.ofNat

def decimal (n : Nat) : List Char :=
  Nat.toDigits 10 n

theorem fromStrRadix_lt {width radix : Nat} {src : List Char} {n : Nat}
    (parsed : fromStrRadix width radix src = .ok n) : n < 2 ^ width := by
  have loop : ∀ digits result, result < 2 ^ width →
      accumulate width radix digits result = .ok n → n < 2 ^ width := by
    intro digits
    induction digits with
    | nil => intro result bound done; simp only [accumulate, Except.ok.injEq] at done; omega
    | cons c rest ih =>
        intro result _ done
        simp only [accumulate] at done
        split at done
        · cases done
        · split_ifs at done with _ fits
          exact ih _ fits done
  cases src with
  | nil => cases parsed
  | cons c rest =>
      simp only [fromStrRadix] at parsed
      split_ifs at parsed
      all_goals first | cases parsed | exact loop _ 0 (Nat.two_pow_pos width) parsed

theorem toDigitsCore_head {radix : Nat} (positive : 0 < radix) : ∀ fuel n ds, ∃ d rest, d < radix ∧
    Nat.toDigitsCore radix (fuel + 1) n ds = Nat.digitChar d :: rest := by
  intro fuel
  induction fuel with
  | zero =>
      intro n ds
      refine ⟨n % radix, ds, Nat.mod_lt n (by omega), ?_⟩
      simp only [Nat.toDigitsCore]
      split_ifs <;> rfl
  | succ fuel ih =>
      intro n ds
      rw [Nat.toDigitsCore]
      split_ifs
      · exact ⟨n % radix, ds, Nat.mod_lt n (by omega), rfl⟩
      · exact ih _ _

theorem mem_toDigitsCore {radix : Nat} (positive : 0 < radix) {c : Char} :
    ∀ {fuel n ds}, c ∈ Nat.toDigitsCore radix fuel n ds → c ∈ ds ∨ ∃ d < radix, c = Nat.digitChar d
  | 0, _, _, member => .inl member
  | fuel + 1, n, ds, member => by
      have digit : c ∈ Nat.digitChar (n % radix) :: ds → c ∈ ds ∨ ∃ d < radix, c = Nat.digitChar d :=
        fun member => (List.mem_cons.mp member).elim
          (fun same => .inr ⟨n % radix, Nat.mod_lt n positive, same⟩) .inl
      simp only [Nat.toDigitsCore] at member
      split_ifs at member
      · exact digit member
      · exact (mem_toDigitsCore positive member).elim digit .inr

theorem not_mem_toDigits {radix : Nat} (positive : 0 < radix) {c : Char}
    (notDigit : ∀ d < radix, Nat.digitChar d ≠ c) (n : Nat) : c ∉ Nat.toDigits radix n :=
  fun member => (mem_toDigitsCore positive member).elim (fun inNil => by cases inNil)
    fun ⟨d, small, same⟩ => notDigit d small same.symm

theorem mapM_map_pure {m : Type → Type} [Monad m] [LawfulMonad m] {α β : Type} {f : β → m α}
    {g : α → β} : ∀ {xs : List α}, (∀ x ∈ xs, f (g x) = pure x) → (xs.map g).mapM f = pure xs
  | [], _ => rfl
  | x :: xs, reads => by
      rw [List.map_cons, List.mapM_cons, reads x (List.mem_cons_self _ _), pure_bind,
        mapM_map_pure fun y member => reads y (List.mem_cons_of_mem _ member), pure_bind]

section Digits

variable {radix width : Nat} (wide : 1 < radix)
  (digits : ∀ d, d < radix → toDigit radix (Nat.digitChar d) = some d)
include wide digits

theorem accumulate_toDigitsCore : ∀ fuel n ds, n < fuel → n < 2 ^ width →
    accumulate width radix (Nat.toDigitsCore radix fuel n ds) 0 = accumulate width radix ds n := by
  intro fuel
  induction fuel with
  | zero => intro n ds below; omega
  | succ fuel ih =>
      intro n ds below fits
      have split := Nat.div_add_mod' n radix
      have last := Nat.mod_lt n (by omega : 0 < radix)
      simp only [Nat.toDigitsCore]
      split_ifs with leading
      · have small : n % radix = n := by rw [leading] at split; omega
        rw [small] at last ⊢
        simp [accumulate, digits n last, Nat.two_pow_pos width, fits]
      · have positive : 0 < n := Nat.pos_of_ne_zero fun zero => leading (by simp [zero])
        have shorter : n / radix < fuel := by
          have := Nat.div_lt_self positive wide
          omega
        rw [ih _ _ shorter (by have := Nat.div_le_self n radix; omega)]
        simp only [accumulate, digits _ last]
        rw [if_pos (by omega), if_pos (by omega), split]

end Digits

theorem toDigit_digitChar_decimal : ∀ d, d < 10 → toDigit 10 (Nat.digitChar d) = some d := by
  decide

theorem fromStrRadix_decimal {width n : Nat} (fits : n < 2 ^ width) :
    fromStrRadix width 10 (decimal n) = .ok n := by
  obtain ⟨d, rest, digit, head⟩ := toDigitsCore_head (by norm_num : 0 < 10) n n []
  have signs : ∀ d, d < 10 → Nat.digitChar d ≠ '+' ∧ Nat.digitChar d ≠ '-' := by decide
  have unsigned := signs d digit
  have read : accumulate width 10 _ 0 = _ := accumulate_toDigitsCore (by norm_num)
    toDigit_digitChar_decimal (n + 1) n [] (by omega) fits
  simp only [decimal, Nat.toDigits] at read ⊢
  rw [head] at read ⊢
  simp only [fromStrRadix, unsigned.1, unsigned.2, false_or, false_and, if_false]
  rw [read]
  rfl

end Opte
