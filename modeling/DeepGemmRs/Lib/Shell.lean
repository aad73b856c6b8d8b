import Mathlib.Data.List.Basic

/-!
# How a shell splits a line

Token recognition of a POSIX shell, character by character, as far as lines need it that expand nothing:
blanks between words, operators, single quotes, double quotes.

* `Token`, `Place` : what a line is split into, and where in it the shell is;
* `Recognizer` : a shell, by what it does with the characters such lines are made of;
* `Recognizer.Spells`, `Recognizer.Reads` : text that spells a word, and a line that is split into tokens;
  `Reads.next` begins a word after a blank, `Reads.join` lengthens the last one;
* `quote` : a text in single quotes, its apostrophes in double ones; `spells_quote` : it spells the text;
* `posix` : a recognizer with the operators of POSIX, which gives up where something is to be expanded.
-/

namespace Shell

/-- What a line is split into. -/
inductive Token where
  | word (text : List Char)
  | operator (text : List Char)
deriving DecidableEq

inductive Quotes where
  | none
  | single
  | double
deriving DecidableEq

/-- Where in a line the shell is. -/
inductive Place where
  /-- Between two tokens. -/
  | blank
  | word (quotes : Quotes) (text : List Char)
  | operator (text : List Char)
deriving DecidableEq

/-- The token that would end here. -/
def Place.token : Place → Option Token
  | .word .none text => some (.word text)
  | .operator text => some (.operator text)
  | _ => Option.none

/-- Outside quotes, after this much of a word. -/
inductive Place.Outside : Place → List Char → Prop
  | blank : Outside .blank []
  | word {text : List Char} : Outside (.word .none text) text

def apostrophe : Char := Char.ofNat 39

/-- The characters with no meaning to the shell that lines are written with here. -/
def Ordinary (c : Char) : Prop := c.isAlphanum ∨ c ∈ ['-', '+', '=', ',', '_']

instance : DecidablePred Ordinary :=
  fun c => inferInstanceAs (Decidable (c.isAlphanum ∨ c ∈ ['-', '+', '=', ',', '_']))

-- A bounded quantifier over a text is decided along the text, never by a search through all characters.
instance decidableAllChars {p : Char → Prop} [DecidablePred p] {cs : List Char} : Decidable (∀ c ∈ cs, p c) :=
  List.decidableBAll p cs

/-- A shell: it reads a character, and tells the tokens that end and where it is then. It says nothing
where it would do more than to split. -/
structure Recognizer where
  step : Place → Char → Option (List Token × Place)
  /-- Between single quotes each character is itself, up to the next single quote. -/
  single_literal : ∀ text c, c ≠ apostrophe → step (.word .single text) c = some ([], .word .single (text ++ [c]))
  single_close : ∀ text, step (.word .single text) apostrophe = some ([], .word .none text)
  /-- Between double quotes a single quote is itself. -/
  double_literal : ∀ text, step (.word .double text) apostrophe = some ([], .word .double (text ++ [apostrophe]))
  double_close : ∀ text, step (.word .double text) '"' = some ([], .word .none text)
  /-- Quotes begin a word, or go on with the word they follow. -/
  open_single : ∀ place text, place.Outside text → step place apostrophe = some ([], .word .single text)
  open_double : ∀ place text, place.Outside text → step place '"' = some ([], .word .double text)
  ordinary : ∀ place text c, place.Outside text → Ordinary c → step place c = some ([], .word .none (text ++ [c]))
  /-- A blank ends a token. -/
  delimit : ∀ place token, place.token = some token → step place ' ' = some ([token], .blank)
  and_begin : step .blank '&' = some ([], .operator ['&'])
  and_extend : step (.operator ['&']) '&' = some ([], .operator ['&', '&'])

namespace Recognizer

variable (shell : Recognizer)

/-- The tokens that end in a text, and the place after it. -/
def scan (place : Place) : List Char → Option (List Token × Place)
  | [] => some ([], place)
  | c :: cs => do
    let (tokens, next) ← shell.step place c
    let (rest, last) ← scan next cs
    some (tokens ++ rest, last)

/-- The tokens of a line. -/
def split (line : List Char) : Option (List Token) := do
  let (tokens, place) ← shell.scan .blank line
  match place with
  | .blank => some tokens
  | _ => place.token.map fun token => tokens ++ [token]

/-- Outside quotes `cs` is read as `text`. -/
def Spells (cs text : List Char) : Prop :=
  ∀ place before, place.Outside before → shell.scan place cs = some ([], .word .none (before ++ text))

/-- The line is split into the tokens, and the last of them ends with it. -/
def Reads (line : List Char) (tokens : List Token) : Prop :=
  ∃ before place last, shell.scan .blank line = some (before, place) ∧ place.token = some last ∧
    tokens = before ++ [last]

variable {shell} {place : Place} {cs ds text text' : List Char} {line : List Char} {tokens : List Token}

theorem scan_cons {c : Char} {next : Place} (h : shell.step place c = some ([], next)) :
    shell.scan place (c :: cs) = shell.scan next cs := by
  rw [scan, h]
  show ((shell.scan next cs).bind fun result => some ([] ++ result.1, result.2)) = shell.scan next cs
  cases shell.scan next cs <;> rfl

theorem scan_append : shell.scan place (cs ++ ds) = (do
    let (tokens, next) ← shell.scan place cs
    let (rest, last) ← shell.scan next ds
    some (tokens ++ rest, last)) := by
  induction cs generalizing place with
  | nil =>
    show shell.scan place ds = (shell.scan place ds).bind fun result => some ([] ++ result.1, result.2)
    cases shell.scan place ds <;> rfl
  | cons c cs ih =>
    simp only [List.cons_append, scan, ih, Option.bind_eq_bind, Option.bind_assoc, Option.bind_some,
      List.append_assoc]

theorem scan_append_of {next last : Place} {rest : List Token} (h : shell.scan place cs = some (tokens, next))
    (h' : shell.scan next ds = some (rest, last)) : shell.scan place (cs ++ ds) = some (tokens ++ rest, last) := by
  rw [scan_append, h]
  simp only [Option.bind_eq_bind, Option.bind_some, h']

/-! ## Words -/

theorem scan_ordinary (h : ∀ c ∈ cs, Ordinary c) (before : List Char) :
    shell.scan (.word .none before) cs = some ([], .word .none (before ++ cs)) := by
  induction cs generalizing before with
  | nil =>
    rw [List.append_nil]
    rfl
  | cons c cs ih =>
    rw [scan_cons (shell.ordinary _ before c .word (h c List.mem_cons_self)),
      ih fun d hd => h d (List.mem_cons_of_mem c hd), List.append_assoc]
    rfl

/-- Characters without a meaning spell themselves. -/
theorem spells_ordinary (hne : cs ≠ []) (h : ∀ c ∈ cs, Ordinary c) : shell.Spells cs cs := by
  cases cs with
  | nil => exact absurd rfl hne
  | cons c cs =>
    intro place before hplace
    rw [scan_cons (shell.ordinary place before c hplace (h c List.mem_cons_self)),
      scan_ordinary fun d hd => h d (List.mem_cons_of_mem c hd), List.append_assoc]
    rfl

/-! ## Lines -/

theorem reads_of_spells (h : shell.Spells cs text) : shell.Reads cs [.word text] :=
  ⟨[], _, .word text, h .blank [] .blank, rfl, rfl⟩

/-- A word after a blank. -/
theorem Reads.next (h : shell.Reads line tokens) (hs : shell.Spells cs text) :
    shell.Reads (line ++ ' ' :: cs) (tokens ++ [.word text]) := by
  obtain ⟨before, place, last, hscan, hlast, rfl⟩ := h
  have hblank : shell.scan place (' ' :: cs) = some ([last], .word .none text) := by
    unfold scan
    simp only [shell.delimit place last hlast, hs .blank [] .blank, Option.bind_eq_bind, Option.bind_some]
    rfl
  exact ⟨_, _, .word text, scan_append_of hscan hblank, rfl, rfl⟩

/-- More of the last word. -/
theorem Reads.join (h : shell.Reads line (tokens ++ [.word text])) (hs : shell.Spells cs text') :
    shell.Reads (line ++ cs) (tokens ++ [.word (text ++ text')]) := by
  obtain ⟨before, place, last, hscan, hlast, htokens⟩ := h
  obtain ⟨rfl, hword⟩ := List.append_inj' htokens rfl
  obtain rfl := List.singleton_inj.mp hword
  have hplace : place = .word .none text := by
    unfold Place.token at hlast
    split at hlast
    · cases hlast
      rfl
    · cases hlast
    · cases hlast
  subst hplace
  have hjoined := scan_append_of hscan (hs _ _ .word)
  rw [List.append_nil] at hjoined
  exact ⟨tokens, _, .word (text ++ text'), hjoined, rfl, rfl⟩

/-- `&&` after a blank. -/
theorem Reads.and (h : shell.Reads line tokens) :
    shell.Reads (line ++ [' ', '&', '&']) (tokens ++ [.operator ['&', '&']]) := by
  obtain ⟨before, place, last, hscan, hlast, rfl⟩ := h
  have hblank : shell.scan place [' ', '&', '&'] = some ([last], .operator ['&', '&']) := by
    simp only [scan, shell.delimit place last hlast, shell.and_begin, shell.and_extend, Option.bind_eq_bind,
      Option.bind_some]
    rfl
  exact ⟨_, _, .operator ['&', '&'], scan_append_of hscan hblank, rfl, rfl⟩

/-- A part that may be missing. -/
theorem Reads.option {p : Prop} [Decidable p] {more : List Token} (h : shell.Reads line tokens)
    (hmore : shell.Reads (line ++ cs) (tokens ++ more)) :
    shell.Reads (line ++ if p then cs else []) (tokens ++ if p then more else []) := by
  by_cases hp : p
  · rw [if_pos hp, if_pos hp]
    exact hmore
  · rw [if_neg hp, if_neg hp, List.append_nil, List.append_nil]
    exact h

theorem Reads.split (h : shell.Reads line tokens) : shell.split line = some tokens := by
  obtain ⟨before, place, last, hscan, hlast, rfl⟩ := h
  unfold Recognizer.split
  rw [hscan]
  cases place with
  | blank => cases hlast
  | word quotes text => exact congrArg (Option.map fun token => before ++ [token]) hlast
  | operator text => exact congrArg (Option.map fun token => before ++ [token]) hlast

end Recognizer

/-! ## Quoting -/

/-- A character between single quotes; an apostrophe leaves them, is quoted otherwise, and enters them again. -/
def escape (c : Char) : List Char := if c = apostrophe then [apostrophe, '"', apostrophe, '"', apostrophe] else [c]

/-- A text in single quotes. -/
def quote (text : List Char) : List Char := apostrophe :: text.flatMap escape ++ [apostrophe]

section

open Recognizer

variable {shell : Recognizer} {text : List Char}

theorem scan_escape {c : Char} (before : List Char) :
    shell.scan (.word .single before) (escape c) = some ([], .word .single (before ++ [c])) := by
  unfold escape
  by_cases hc : c = apostrophe
  · rw [if_pos hc, scan_cons (shell.single_close before), scan_cons (shell.open_double _ before .word),
      scan_cons (shell.double_literal before), scan_cons (shell.double_close _),
      scan_cons (shell.open_single _ _ .word), hc]
    rfl
  · rw [if_neg hc, scan_cons (shell.single_literal before c hc)]
    rfl

theorem scan_escapes (before : List Char) :
    shell.scan (.word .single before) (text.flatMap escape) = some ([], .word .single (before ++ text)) := by
  induction text generalizing before with
  | nil =>
    rw [List.append_nil]
    rfl
  | cons c text ih =>
    rw [List.flatMap_cons, scan_append_of (scan_escape before) (ih (before ++ [c])), List.append_assoc]
    rfl

/-- **A quoted text spells the text, whatever is in it.** -/
theorem spells_quote : shell.Spells (quote text) text := by
  intro place before hplace
  unfold quote
  rw [List.cons_append, scan_cons (shell.open_single place before hplace),
    scan_append_of (scan_escapes before) (scan_cons (shell.single_close _))]
  rfl

end

/-! ## A POSIX shell -/

/-- The operators. -/
def operators : List (List Char) :=
  ["&", "&&", "|", "||", ";", ";;", "<", "<<", "<<-", "<&", "<>", ">", ">>", ">&", ">|", "(", ")", "\n"].map String.toList

/-- The characters that ask for an expansion, a comment or an escape. -/
def active : List Char := ['\\', '$', Char.ofNat 96, '*', '?', '[', '#', '~']

/-- A character between two tokens. -/
def beginToken (c : Char) : Option Place :=
  if c = ' ' ∨ c = '\t' then some .blank
  else if c = apostrophe then some (.word .single [])
  else if c = '"' then some (.word .double [])
  else if [c] ∈ operators then some (.operator [c])
  else if c ∈ active then none
  else some (.word .none [c])

def posixStep : Place → Char → Option (List Token × Place)
  | .blank, c => (beginToken c).map fun place => ([], place)
  | .operator text, c =>
    if text ++ [c] ∈ operators then some ([], .operator (text ++ [c]))
    else (beginToken c).map fun place => ([.operator text], place)
  | .word .none text, c =>
    if c = apostrophe then some ([], .word .single text)
    else if c = '"' then some ([], .word .double text)
    else if c = ' ' ∨ c = '\t' ∨ [c] ∈ operators then (beginToken c).map fun place => ([.word text], place)
    else if c ∈ active then none
    else some ([], .word .none (text ++ [c]))
  | .word .single text, c =>
    if c = apostrophe then some ([], .word .none text) else some ([], .word .single (text ++ [c]))
  | .word .double text, c =>
    if c = '"' then some ([], .word .none text)
    else if c ∈ ['\\', '$', Char.ofNat 96] then none
    else some ([], .word .double (text ++ [c]))

theorem append_not_mem_operators {c : Char} (hc : ∀ op ∈ operators, c ∉ op) (text : List Char) :
    text ++ [c] ∉ operators := by
  intro h
  exact hc _ h (List.mem_append_right text List.mem_cons_self)

theorem Ordinary.ne {c d : Char} (h : Ordinary c) (hd : ¬ Ordinary d) : c ≠ d := by
  rintro rfl
  exact hd h

theorem Ordinary.not_mem {c : Char} {l : List Char} (h : Ordinary c) (hl : ∀ d ∈ l, ¬ Ordinary d) : c ∉ l :=
  fun hc => hl c hc h

theorem Ordinary.not_operator {c : Char} (h : Ordinary c) : [c] ∉ operators := by
  have hnone : ∀ op ∈ operators, op.length = 1 → ∀ d ∈ op, ¬ Ordinary d := by decide
  exact fun hc => hnone _ hc rfl c List.mem_cons_self h

theorem blank_not_operator : ∀ op ∈ operators, ' ' ∉ op := by
  decide

theorem beginToken_ordinary {c : Char} (h : Ordinary c) : beginToken c = some (.word .none [c]) := by
  unfold beginToken
  rw [if_neg, if_neg (h.ne (by decide)), if_neg (h.ne (by decide)), if_neg h.not_operator,
    if_neg (h.not_mem (by decide))]
  exact not_or.mpr ⟨h.ne (by decide), h.ne (by decide)⟩

/-- A shell with the operators of POSIX. -/
def posix : Recognizer where
  step := posixStep
  single_literal _ _ hc := if_neg hc
  single_close _ := rfl
  double_literal _ := rfl
  double_close _ := rfl
  open_single _ _ h := by
    cases h <;> rfl
  open_double _ _ h := by
    cases h <;> rfl
  ordinary _ _ _ h hc := by
    cases h with
    | blank => exact congrArg (Option.map fun place => ([], place)) (beginToken_ordinary hc)
    | word =>
      unfold posixStep
      simp only
      rw [if_neg (hc.ne (by decide)), if_neg (hc.ne (by decide)), if_neg, if_neg (hc.not_mem (by decide))]
      exact not_or.mpr ⟨hc.ne (by decide), not_or.mpr ⟨hc.ne (by decide), hc.not_operator⟩⟩
  delimit place token h := by
    unfold Place.token at h
    split at h
    · cases h
      rfl
    · cases h
      exact if_neg (append_not_mem_operators blank_not_operator _)
    · cases h
  and_begin := rfl
  and_extend := rfl

example : posix.split "a 'b c'\"'\"d&&e".toList =
    some [.word ['a'], .word ['b', ' ', 'c', apostrophe, 'd'], .operator ['&', '&'], .word ['e']] := by
  decide

end Shell
