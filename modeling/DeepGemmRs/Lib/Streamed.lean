import Mathlib.Data.List.Basic
import Mathlib.Data.Nat.Notation
import Mathlib.Tactic.Common

/-!
# Texts made by streaming

A text streamed piece by piece, literals and printed values, and when the values can be read off it.

* `toString_int_inj`, `numeralChar_int` : how integers print;
* `Printer` : values, how they print, and a delimiter that no value prints;
* `Piece`, `render` : what is streamed, and the text;
* `Delimited`, `SameForm` : a literal that begins with a delimiter follows each value; two streams differ in
  their values only;
* `render_inj` : **such streams with one text are the same.**
-/

namespace Streamed

/-! ## Integers -/

/-- A digit or the sign. -/
def NumeralChar (c : Char) : Prop := c.isDigit = true ∨ c = '-'

instance numeralCharDecidable : DecidablePred NumeralChar := fun _ => inferInstanceAs (Decidable (_ ∨ _))

theorem numeralChar_nat {n : ℕ} : ∀ c ∈ (toString n).toList, NumeralChar c := by
  intro c hc
  rw [Nat.toString_eq_repr, Nat.toList_repr] at hc
  exact .inl (Nat.isDigit_of_mem_toDigits (by decide) (by decide) hc)

theorem numeralChar_int {n : Int} : ∀ c ∈ (toString n).toList, NumeralChar c := by
  cases n with
  | ofNat n => exact numeralChar_nat
  | negSucc n =>
    intro c hc
    have hprint : toString (Int.negSucc n) = "-" ++ toString (n + 1) := rfl
    rw [hprint, String.toList_append, List.mem_append] at hc
    rcases hc with hsign | hdigit
    · exact .inr (List.mem_singleton.mp hsign)
    · exact numeralChar_nat c hdigit

theorem toString_nat_inj {n m : ℕ} (h : toString n = toString m) : n = m := by
  have hdigits := congrArg String.toList h
  rw [Nat.toString_eq_repr, Nat.toString_eq_repr, Nat.toList_repr, Nat.toList_repr] at hdigits
  have hread : ∀ k, Nat.ofDigitChars 10 (Nat.toDigits 10 k) 0 = k := fun _ => Nat.ofDigitChars_ten_toDigits
  rw [← hread n, hdigits, hread]

/-- Only a negative number prints a sign. -/
theorem toString_nat_ne_neg {n : ℕ} {text : String} : toString n ≠ "-" ++ text := by
  intro h
  have hsign : '-' ∈ (toString n).toList := by
    rw [h, String.toList_append]
    exact List.mem_append_left _ (List.mem_singleton.mpr rfl)
  rw [Nat.toString_eq_repr, Nat.toList_repr] at hsign
  cases Nat.isDigit_of_mem_toDigits (by decide) (by decide) hsign

theorem toString_int_inj {n m : Int} (h : toString n = toString m) : n = m := by
  cases n with
  | ofNat n =>
    cases m with
    | ofNat m => exact congrArg Int.ofNat (toString_nat_inj h)
    | negSucc m => exact absurd h toString_nat_ne_neg
  | negSucc n =>
    cases m with
    | ofNat m => exact absurd h.symm toString_nat_ne_neg
    | negSucc m =>
      have hprint : "-" ++ toString (n + 1) = "-" ++ toString (m + 1) := h
      have hsame := toString_nat_inj ((String.append_right_inj "-").mp hprint)
      exact congrArg Int.negSucc (Nat.succ.inj hsame)

/-! ## Streams -/

/-- Values, and how they print. -/
structure Printer (V : Type) where
  print : V → String
  /-- Values of one kind. -/
  Alike : V → V → Prop
  delimiter : Char → Prop
  /-- No value prints a delimiter. -/
  free : ∀ v, ∀ c ∈ (print v).toList, ¬ delimiter c
  /-- Values of one kind print differently. -/
  print_inj : ∀ v w, Alike v w → print v = print w → v = w

/-- What is streamed into a text. -/
inductive Piece (V : Type) where
  | lit (text : String)
  | val (value : V)

namespace Printer

variable {V : Type} (printer : Printer V)

def text : Piece V → String
  | .lit text => text
  | .val value => printer.print value

/-- The text of a stream. -/
def render : List (Piece V) → String
  | [] => ""
  | piece :: rest => printer.text piece ++ render rest

/-- The stream goes on with a literal, and that begins with a delimiter. -/
def Stops : List (Piece V) → Prop
  | .lit text :: _ => ∃ c ∈ text.toList.head?, printer.delimiter c
  | _ => False

/-- Each value is followed by a delimiter. -/
def Delimited : List (Piece V) → Prop
  | [] => True
  | .lit _ :: rest => Delimited rest
  | .val _ :: rest => printer.Stops rest ∧ Delimited rest

/-- The same literals, and values of the same kinds between them. -/
def SameForm : List (Piece V) → List (Piece V) → Prop
  | [], [] => True
  | .lit text :: rest, .lit text' :: rest' => text = text' ∧ SameForm rest rest'
  | .val value :: rest, .val value' :: rest' => printer.Alike value value' ∧ SameForm rest rest'
  | _, _ => False

variable {printer} {pieces pieces' : List (Piece V)}

/-- What a stream that goes on with a delimiter renders begins with it. -/
theorem Stops.render_eq (h : printer.Stops pieces) : ∃ c cs, (printer.render pieces).toList = c :: cs ∧ printer.delimiter c := by
  cases pieces with
  | nil => exact h.elim
  | cons piece rest =>
    cases piece with
    | val value => exact h.elim
    | lit text =>
      obtain ⟨c, hc, hdelimiter⟩ := h
      obtain ⟨cs, hcs⟩ := List.head?_eq_some_iff.mp hc
      refine ⟨c, cs ++ (printer.render rest).toList, ?_, hdelimiter⟩
      show (text ++ printer.render rest).toList = _
      rw [String.toList_append, hcs, List.cons_append]

/-- The forms agree on where a delimiter follows. -/
theorem Stops.sameForm (h : printer.Stops pieces) (hform : printer.SameForm pieces pieces') : printer.Stops pieces' := by
  cases pieces with
  | nil => exact h.elim
  | cons piece rest =>
    cases piece with
    | val value => exact h.elim
    | lit text =>
      cases pieces' with
      | nil => exact hform.elim
      | cons piece' rest' =>
        cases piece' with
        | val value' => exact hform.elim
        | lit text' =>
          obtain ⟨rfl, -⟩ := hform
          exact h

theorem Stops.append (h : printer.Stops pieces) (rest : List (Piece V)) : printer.Stops (pieces ++ rest) := by
  cases pieces with
  | nil => exact h.elim
  | cons piece _ =>
    cases piece with
    | lit text => exact h
    | val value => exact h.elim

theorem Delimited.append (h : printer.Delimited pieces) (h' : printer.Delimited pieces') :
    printer.Delimited (pieces ++ pieces') := by
  induction pieces with
  | nil => exact h'
  | cons piece rest ih =>
    cases piece with
    | lit text => exact ih h
    | val value => exact ⟨h.1.append pieces', ih h.2⟩

theorem SameForm.append {rest rest' : List (Piece V)} (h : printer.SameForm pieces pieces')
    (h' : printer.SameForm rest rest') : printer.SameForm (pieces ++ rest) (pieces' ++ rest') := by
  induction pieces generalizing pieces' with
  | nil =>
    cases pieces' with
    | nil => exact h'
    | cons piece' _ => exact h.elim
  | cons piece _ ih =>
    cases pieces' with
    | nil => cases piece <;> exact h.elim
    | cons piece' _ =>
      cases piece with
      | lit text =>
        cases piece' with
        | lit text' => exact ⟨h.1, ih h.2⟩
        | val value' => exact h.elim
      | val value =>
        cases piece' with
        | lit text' => exact h.elim
        | val value' => exact ⟨h.1, ih h.2⟩

/-- The first delimiter is where the two begin to be read alike. -/
theorem split_inj {delimiter : Char → Prop} {before before' after after' : List Char} {c c' : Char}
    (hc : delimiter c) (hc' : delimiter c') (h : ∀ d ∈ before, ¬ delimiter d) (h' : ∀ d ∈ before', ¬ delimiter d)
    (hsame : before ++ c :: after = before' ++ c' :: after') : before = before' ∧ c :: after = c' :: after' := by
  induction before generalizing before' with
  | nil =>
    cases before' with
    | nil => exact ⟨rfl, hsame⟩
    | cons d rest' =>
      obtain ⟨rfl, -⟩ := List.cons.inj hsame
      exact absurd hc (h' c List.mem_cons_self)
  | cons d rest ih =>
    cases before' with
    | nil =>
      obtain ⟨rfl, -⟩ := List.cons.inj hsame
      exact absurd hc' (h d List.mem_cons_self)
    | cons d' rest' =>
      obtain ⟨rfl, hrest⟩ := List.cons.inj hsame
      obtain ⟨rfl, hafter⟩ := ih (fun e he => h e (List.mem_cons_of_mem _ he))
        (fun e he => h' e (List.mem_cons_of_mem _ he)) hrest
      exact ⟨rfl, hafter⟩

/-- The value before a delimiter can be read off. -/
theorem value_inj {value value' : V} (halike : printer.Alike value value') (hstops : printer.Stops pieces)
    (hstops' : printer.Stops pieces')
    (h : printer.print value ++ printer.render pieces = printer.print value' ++ printer.render pieces') :
    value = value' ∧ printer.render pieces = printer.render pieces' := by
  obtain ⟨c, cs, hcs, hc⟩ := hstops.render_eq
  obtain ⟨c', cs', hcs', hc'⟩ := hstops'.render_eq
  have hchars := congrArg String.toList h
  rw [String.toList_append, String.toList_append, hcs, hcs'] at hchars
  obtain ⟨hbefore, hafter⟩ := split_inj hc hc' (printer.free value) (printer.free value') hchars
  rw [← hcs, ← hcs'] at hafter
  exact ⟨printer.print_inj _ _ halike (String.toList_inj.mp hbefore), String.toList_inj.mp hafter⟩

/-- **The values can be read off the text** of a stream in which a delimiter follows each of them. -/
theorem render_inj (hdelimited : printer.Delimited pieces) (hform : printer.SameForm pieces pieces')
    (h : printer.render pieces = printer.render pieces') : pieces = pieces' := by
  induction pieces generalizing pieces' with
  | nil =>
    cases pieces' with
    | nil => rfl
    | cons piece' rest' => exact hform.elim
  | cons piece rest ih =>
    cases pieces' with
    | nil => cases piece <;> exact hform.elim
    | cons piece' rest' =>
      cases piece with
      | lit text =>
        cases piece' with
        | val value' => exact hform.elim
        | lit text' =>
          obtain ⟨rfl, hform⟩ := hform
          rw [ih hdelimited hform ((String.append_right_inj text).mp h)]
      | val value =>
        cases piece' with
        | lit text' => exact hform.elim
        | val value' =>
          obtain ⟨halike, hform⟩ := hform
          obtain ⟨hstops, hdelimited⟩ := hdelimited
          obtain ⟨rfl, hrest⟩ := value_inj halike hstops (hstops.sameForm hform) h
          rw [ih hdelimited hform hrest]

end Printer

end Streamed
