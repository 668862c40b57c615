import SecureSockets.Proofs.Regex.Brackets
import SecureSockets.Proofs.Regex.Groups
import SecureSockets.Proofs.Regex.Repetitions

namespace SecureSockets.Regex

/-!
# Reading one part in front of a closing

The reader takes one part of a pattern at a time.  A part that begins in front of a
closing is taken in the same way as without it, unless it fails at the end of the
pattern.  It may succeed then only by taking the parenthesis of the closing for its own:
the end of some flags, or a range of a class that never ends.

One escape is an exception.  The condition of a word boundary may be followed by a name
in braces, and where the name is missing the brace is given back.  The brace is then a
repetition without a number, so that the reader fails one part later.
-/

namespace Reader

def pushAtom (reader : Reader) (atom : Atom) : Option Reader :=
  (atomRegex reader.flags atom).map fun regex => reader.push ⟨regex, 0⟩

/-- A part that fails in front of a closing has taken from the closing, or has left a
brace for the next part to fail at. -/
def BeyondPart (s : List Char) (reader : Reader) (rest : List Char) : Prop :=
  rest.length < s.length ∨ ∃ inner, rest = '\x7b' :: inner ∧ reader.flags.skip inner = s

section Step

variable (reader : Reader) (rest : List Char)

theorem step_brace : reader.step '\x7b' rest = reader.repeatBounds rest := by
  unfold repeatBounds readBounds
  rw [Option.bind_map]
  rfl

theorem step_slash :
    reader.step '\\' rest =
      (readEscape reader.flags rest).bind fun p =>
        (reader.pushAtom p.1).map fun r => (r, p.2) := by
  simp only [step, pushAtom]
  congr 1
  funext p
  cases atomRegex reader.flags p.1 <;> rfl

/-- What a character does to the reader when it is a part by itself. -/
def single (c : Char) : Option Reader :=
  match c with
  | ')' => reader.leave
  | '|' => some reader.branch
  | '.' => (dotSet reader.flags).map fun set => reader.push ⟨.chars set, 0⟩
  | '^' => some (reader.push ⟨.look (startLook reader.flags), 0⟩)
  | '$' => some (reader.push ⟨.look (endLook reader.flags), 0⟩)
  | c => (charSet reader.flags c false).map fun set => reader.push ⟨.chars set, 0⟩

/-- The numbers of copies that a character stands for. -/
def repetition? (c : Char) : Option (Nat × Option Nat) :=
  match c with
  | '?' => some (0, some 1)
  | '*' => some (0, none)
  | '+' => some (1, none)
  | _ => none

theorem step_repetition {c : Char} {bounds : Nat × Option Nat}
    (repeats : repetition? c = some bounds) :
    reader.step c rest =
      (reader.repeatLast bounds.1 bounds.2).map fun r => (r, dropLazyMark rest) := by
  unfold repetition? at repeats
  split at repeats <;> cases repeats <;> rfl

theorem step_single {c : Char} (noGroup : c ≠ '(') (noClass : c ≠ '[') (noBrace : c ≠ '\x7b')
    (noSlash : c ≠ '\\') (noRepetition : repetition? c = none) :
    reader.step c rest = (reader.single c).map fun r => (r, rest) := by
  unfold step single
  dsimp only
  split
  all_goals first | contradiction | skip
  · rfl
  · rfl
  · cases dotSet reader.flags <;> rfl
  · rfl
  · rfl
  · split <;> first | contradiction | skip
    cases charSet reader.flags c false <;> rfl

theorem step_bracket :
    reader.step '[' rest =
      (readBracket reader.flags rest).bind fun p =>
        (some (reader.push ⟨.chars p.1.set, p.1.depth⟩)).map fun r => (r, p.2) := by
  show (readBracket reader.flags rest).map _ = _
  cases readBracket reader.flags rest <;> rfl

end Step

/-- The kinds of parts, by the character that a part begins with.  A part is compared with
its reading in front of a closing kind by kind. -/
inductive Leading : Char -> Prop where
  | group : Leading '('
  | bracket : Leading '['
  | brace : Leading '\x7b'
  | slash : Leading '\\'
  | repetition {c : Char} {bounds : Nat × Option Nat} (repeats : repetition? c = some bounds) :
      Leading c
  | single {c : Char} (alone : ∀ (reader : Reader) (rest : List Char),
      reader.step c rest = (reader.single c).map fun r => (r, rest)) : Leading c

theorem leading (c : Char) : Leading c := by
  by_cases group : c = '('
  · exact group ▸ .group
  by_cases bracket : c = '['
  · exact bracket ▸ .bracket
  by_cases brace : c = '\x7b'
  · exact brace ▸ .brace
  by_cases slash : c = '\\'
  · exact slash ▸ .slash
  cases repeats : repetition? c with
  | some bounds => exact .repetition repeats
  | none =>
      exact .single fun reader rest => step_single reader rest group bracket brace slash repeats

theorem step_suffix (reader : Reader) {c : Char} {reader' : Reader} {text rest : List Char}
    (reads : reader.step c text = some (reader', rest)) : rest <:+ text := by
  cases leading c with
  | group => exact open_suffix reader reads
  | bracket =>
      rw [step_bracket] at reads
      rcases Option.bind_eq_some_iff.mp reads with ⟨⟨_, _⟩, bracket, same⟩
      cases same
      exact (readBracket_suffix reader.flags bracket).1
  | brace =>
      rw [step_brace] at reads
      exact repeatBounds_suffix reader reads
  | slash =>
      rw [step_slash] at reads
      rcases Option.bind_eq_some_iff.mp reads with ⟨⟨_, _⟩, escape, reads⟩
      rcases Option.map_eq_some_iff.mp reads with ⟨_, -, same⟩
      cases same
      exact (readEscape_suffix reader.flags escape).1
  | repetition repeats =>
      rw [step_repetition reader text repeats] at reads
      rcases Option.map_eq_some_iff.mp reads with ⟨_, -, same⟩
      cases same
      exact dropLazyMark_suffix text
  | single alone =>
      rw [alone] at reads
      rcases Option.map_eq_some_iff.mp reads with ⟨_, -, same⟩
      cases same
      exact List.suffix_rfl

/-- A part is taken in front of a closing as it is taken alone, or with the closing
hidden, or it fails alone and the reader is beyond it with the closing. -/
theorem step_agrees (reader : Reader) (c : Char) (text : List Char) :
    Agrees BeyondPart (reader.step c text) fun s => reader.step c (text ++ s) := by
  have beyond : ∀ {alone : Option (Reader × List Char)} {followed},
      Agrees Beyond alone followed -> Agrees BeyondPart alone followed :=
    fun agrees => agrees.mono fun _ _ _ _ short => Or.inl short
  cases leading c with
  | group => exact beyond (reader.open_agrees text)
  | bracket =>
      simp only [step_bracket]
      apply (readBracket_agrees reader.flags text).convert some
        fun members => reader.push ⟨.chars members.set, members.depth⟩
      exact fun _ _ _ _ short _ _ => Or.inl short
  | brace =>
      simp only [step_brace]
      exact beyond (reader.repeatBounds_agrees text)
  | slash =>
      simp only [step_slash]
      apply (readEscape_agrees reader.flags text).convert reader.pushAtom id
      intro s _ atom rest lost reader' pushed
      rcases lost with short | ⟨condition, inner, rfl, rfl, same⟩
      · exact Or.inl short
      · cases pushed
        exact Or.inr ⟨inner, rfl, same⟩
  | repetition repeats =>
      simp only [step_repetition _ _ repeats]
      cases reader.repeatLast _ _ with
      | none => exact .none fun _ _ => rfl
      | some repeated =>
          refine .kept repeated (dropLazyMark text) rfl fun s closing => ?_
          rw [dropLazyMark_append text closing]
          rfl
  | single alone =>
      simp only [alone]
      cases reader.single c with
      | none => exact .none fun _ _ => rfl
      | some reader' => exact .kept reader' text rfl fun _ _ => rfl

end Reader

end SecureSockets.Regex
