import SecureSockets.Proofs.Regex.LetterCase
import SecureSockets.Proofs.Regex.Parts

namespace SecureSockets.Regex

open Unicode (toNat_capital toNat_small)

/-!
# Patterns that are read without regard to letter case

While the flag for ignoring letter case is set, every set that the reader makes ignores the
case of ASCII letters: the spellings of its members are added before anything else is done
to it.  So does the expression of a pattern if the flag is set wherever a part of it is
read.  A pattern can clear the flag, which is what makes the assumption necessary.
-/

/-! ## Sets -/

section Sets

variable {flags : Flags} {text rest : List Char} {set completed : CharSet} {atom : Atom}

/-- What an atom adds to a pattern ignores letter case.  A single character is no set yet:
the flags decide which set it becomes. -/
def Atom.Caseless : Atom -> Prop
  | .set members => members.Caseless
  | .char .. | .look _ => True

theorem completeSet_caseless {negated : Bool} (ignores : flags.caseInsensitive = true)
    (completes : flags.completeSet negated set = some completed) : completed.Caseless := by
  unfold Flags.completeSet at completes
  simp only [ignores, if_true] at completes
  split at completes
  · cases completes
    exact CharSet.folded_caseless _ set
  · split at completes
    · cases completes
      exact (CharSet.folded_caseless _ set).complement
    · cases completes

/-- A character that only stands for itself is not an ASCII letter. -/
theorem charSet_caseless {c : Char} {isByte : Bool} (ignores : flags.caseInsensitive = true)
    (reads : charSet flags c isByte = some set) : set.Caseless := by
  unfold charSet at reads
  simp only [ignores, if_true] at reads
  split at reads
  · cases reads
    exact CharSet.folded_caseless _ _
  · split at reads
    · cases reads
      exact CharSet.folded_caseless _ _
    · next beyond =>
        split at reads
        · cases reads
        · have large : 128 ≤ c.toNat := by simpa using beyond
          cases reads
          refine CharSet.singleton_caseless fun n isLetter => ⟨?_, ?_⟩
          · rintro rfl
            rw [toNat_capital n isLetter] at large
            omega
          · rintro rfl
            rw [toNat_small n isLetter] at large
            omega

theorem dotSet_caseless (dots : dotSet flags = some set) : set.Caseless := by
  have newLine : (CharSet.singleton '\n').Caseless := CharSet.singleton_caseless (by decide)
  have carriageReturn : (CharSet.singleton '\r').Caseless := CharSet.singleton_caseless (by decide)
  have none : CharSet.empty.Caseless := fun _ => rfl
  unfold dotSet at dots
  split at dots
  · cases dots
  · split at dots
    · cases dots
      exact none.complement
    · split at dots
      · cases dots
        exact (carriageReturn.union newLine).complement
      · cases dots
        exact newLine.complement

theorem namedSet_caseless {negated : Bool} {ofAll ofAscii : CharSet} (all : ofAll.Caseless)
    (ascii : ofAscii.Caseless) (reads : namedSet flags negated ofAll ofAscii = some atom) :
    atom.Caseless := by
  unfold namedSet at reads
  split at reads
  · cases reads
    cases negated with
    | false => exact all
    | true => exact all.complement
  · split at reads <;> cases reads
    exact ascii

theorem readProperty_caseless {negated : Bool} (ignores : flags.caseInsensitive = true)
    (reads : readProperty flags negated text = some (atom, rest)) : atom.Caseless := by
  rw [readProperty_eq] at reads
  rcases Option.bind_eq_some_iff.mp reads with ⟨⟨property, left⟩, -, reads⟩
  rcases Option.map_eq_some_iff.mp reads with ⟨set, completes, same⟩
  cases same
  split at completes
  · show set.Caseless
    exact completeSet_caseless ignores completes
  · cases completes

theorem readHex_caseless {digits : Nat} (reads : readHex flags digits text = some (atom, rest)) :
    atom.Caseless := by
  by_cases brace : (flags.skip text).head? = some '\x7b'
  · rcases List.head?_eq_some_iff.mp brace with ⟨inner, skipped⟩
    rw [readHex_of_brace flags digits skipped] at reads
    rcases Option.bind_eq_some_iff.mp reads with ⟨_, -, isChar⟩
    rcases Option.map_eq_some_iff.mp isChar with ⟨_, -, same⟩
    cases same
    trivial
  · rw [readHex_of_no_brace flags digits brace] at reads
    rcases Option.bind_eq_some_iff.mp reads with ⟨_, -, isChar⟩
    rcases Option.map_eq_some_iff.mp isChar with ⟨_, -, same⟩
    cases same
    trivial

theorem readBoundary_caseless (reads : readBoundary flags text = some (atom, rest)) :
    atom.Caseless := by
  unfold readBoundary at reads
  dsimp only at reads
  repeat' split at reads
  all_goals cases reads
  all_goals trivial

theorem readEscape_caseless (ignores : flags.caseInsensitive = true)
    (reads : readEscape flags text = some (atom, rest)) : atom.Caseless := by
  cases text with
  | nil => cases reads
  | cons c text =>
      have named {negated : Bool} {ofAll ofAscii : CharSet} (all : ofAll.Caseless)
          (ascii : ofAscii.Caseless)
          (reads : (namedSet flags negated ofAll ofAscii).map (·, text) = some (atom, rest)) :
          atom.Caseless := by
        rcases Option.map_eq_some_iff.mp reads with ⟨_, found, same⟩
        cases same
        exact namedSet_caseless all ascii found
      unfold readEscape at reads
      dsimp only at reads
      split at reads
      iterate 3 · exact readHex_caseless reads
      iterate 2 · exact readProperty_caseless ignores reads
      iterate 2 · exact named CharSet.digit_caseless CharSet.asciiDigit_caseless reads
      iterate 2 · exact named CharSet.blank_caseless CharSet.asciiBlank_caseless reads
      iterate 2 · exact named CharSet.word_caseless CharSet.asciiWord_caseless reads
      iterate 8 · cases reads; trivial
      · exact readBoundary_caseless reads
      iterate 3 · cases reads; trivial
      · split at reads <;> cases reads
        trivial

/-- Whatever is read inside a class, the class is completed at the end. -/
theorem readClass_caseless (ignores : flags.caseInsensitive = true) {fuel : Nat}
    {frames : List ClassFrame} {members : Members} {bracketed : NestedSet}
    (reads : readClass flags fuel frames members text = some (bracketed, rest)) :
    bracketed.set.Caseless := by
  induction fuel generalizing frames members text with
  | zero => cases reads
  | succ fuel ih =>
      rw [readClass_succ] at reads
      unfold readClassPart at reads
      split at reads
      · cases reads
      · split at reads
        · rcases Option.bind_eq_some_iff.mp reads with ⟨_, -, reads⟩
          exact ih reads
        · rcases Option.bind_eq_some_iff.mp reads with ⟨_, -, reads⟩
          exact ih reads
      · split at reads
        · rcases Option.bind_eq_some_iff.mp reads with ⟨_, completes, reads⟩
          split at reads
          · cases reads
            exact completeSet_caseless ignores completes
          · exact ih reads
        · cases reads
      iterate 3 · exact ih reads
      · rcases Option.bind_eq_some_iff.mp reads with ⟨_, -, reads⟩
        exact ih reads

theorem readBracket_caseless (ignores : flags.caseInsensitive = true)
    {bracketed : NestedSet} (reads : readBracket flags text = some (bracketed, rest)) :
    bracketed.set.Caseless := by
  rw [readBracket_eq] at reads
  rcases Option.bind_eq_some_iff.mp reads with ⟨_, -, members⟩
  exact readClass_caseless ignores members

end Sets

/-! ## Expressions -/

theorem sequence_caseless {parts : List Part}
    (caseless : ∀ part ∈ parts, part.nested.regex.Caseless) :
    (sequence parts).regex.Caseless := by
  unfold sequence
  split
  · trivial
  · exact caseless _ List.mem_cons_self
  · next before _ =>
      have parts := List.forall_mem_cons.mp caseless
      exact List.foldlRecOn before _ parts.1 fun _ behind part member =>
        ⟨parts.2 part member, behind⟩

theorem choice_caseless {branches : List Nested}
    (caseless : ∀ branch ∈ branches, branch.regex.Caseless) :
    (choice branches).regex.Caseless := by
  unfold choice
  split
  · trivial
  · exact caseless _ List.mem_cons_self
  · next before _ =>
      have branches := List.forall_mem_cons.mp caseless
      exact List.foldlRecOn before _ branches.1 fun _ behind branch member =>
        ⟨branches.2 branch member, behind⟩

/-! ## Flags -/

namespace FlagReader

def Sets (reader : FlagReader) : Prop :=
  ∀ entry ∈ reader.assigned, entry.2 = true

theorem sets_nothing : Sets {} :=
  List.forall_mem_nil _

/-- It takes a hyphen to clear a flag. -/
theorem sets_of_read {reader set : FlagReader} {mark : Char} {text rest : List Char}
    (noHyphen : '-' ∉ text) (sets : reader.Sets) (positive : reader.negated = false)
    (reads : reader.read text = some ((set, mark), rest)) : set.Sets := by
  induction text generalizing reader with
  | nil => cases reads
  | cons c text ih =>
      have others : '-' ∉ text := fun member => noHyphen (List.mem_cons_of_mem _ member)
      rw [read_cons] at reads
      split at reads
      · split at reads <;> cases reads
        exact sets
      · split at reads
        · next hyphen => exact absurd (beq_iff_eq.mp hyphen ▸ List.mem_cons_self) noHyphen
        · rcases Option.bind_eq_some_iff.mp reads with ⟨flag, -, reads⟩
          split at reads
          · cases reads
          · have setsMore : ∀ entry ∈ reader.assigned ++ [(flag, !reader.negated)],
                entry.2 = true := by
              intro entry member
              rcases List.mem_append.mp member with before | new
              · exact sets entry before
              · rw [List.mem_singleton.mp new, positive]
                rfl
            exact @ih ⟨_, reader.negated, false⟩ others setsMore positive reads

theorem apply_caseInsensitive {set : FlagReader} {flags : Flags} (sets : set.Sets)
    (ignores : flags.caseInsensitive = true) : (set.apply flags).caseInsensitive = true := by
  refine List.foldlRecOn (motive := fun flags : Flags => flags.caseInsensitive = true)
    set.assigned _ ignores ?_
  intro flags ignores entry member
  rcases entry with ⟨flag, value⟩
  have value : value = true := sets _ member
  cases flag <;> first | exact ignores | exact value

end FlagReader

namespace Reader

/-! ## What one part does -/

/-- What one part of a pattern can do to the reader, apart from how the part is spelled. A
flag can be cleared at the beginning of a group or by a setting, and then only if the text
has a hyphen. -/
inductive Moves (reader : Reader) (text : List Char) : Reader -> Prop where
  | pushed (nested : Nested)
      (caseless : reader.flags.caseInsensitive = true -> nested.regex.Caseless) :
      Moves reader text (reader.push nested)
  | branched : Moves reader text reader.branch
  | repeated {next : Reader} {least : Nat} {most : Option Nat}
      (repeats : reader.repeatLast least most = some next) : Moves reader text next
  | left {next : Reader} (leaves : reader.leave = some next) : Moves reader text next
  | entered (names : List (List Char)) (set : FlagReader) (sets : '-' ∉ text -> set.Sets) :
      Moves reader text ({ reader with names := names }.enter (set.apply reader.flags))
  | assigned (set : FlagReader) (sets : '-' ∉ text -> set.Sets) :
      Moves reader text
        { reader with flags := set.apply reader.flags, parts := .setting :: reader.parts }

section Moves

variable {reader next : Reader} {text rest : List Char}

theorem moves_of_enterNamed (enters : reader.enterNamed rest = some (next, rest')) :
    reader.Moves text next := by
  rw [enterNamed_eq] at enters
  rcases Option.bind_eq_some_iff.mp enters with ⟨_, -, enters⟩
  rcases Option.map_eq_some_iff.mp enters with ⟨_, entered, same⟩
  cases same
  unfold named at entered
  split at entered <;> cases entered
  exact .entered _ {} fun _ => FlagReader.sets_nothing

theorem moves_of_enterFlagged {inside : List Char} (suffix : inside <:+ text)
    (enters : reader.enterFlagged inside = some (next, rest)) : reader.Moves text next := by
  rw [enterFlagged_eq] at enters
  rcases Option.bind_eq_some_iff.mp enters with ⟨⟨⟨set, mark⟩, left⟩, reads, enters⟩
  rcases Option.map_eq_some_iff.mp enters with ⟨_, entered, same⟩
  cases same
  have sets : '-' ∉ text -> set.Sets := fun noHyphen =>
    FlagReader.sets_of_read (fun member => noHyphen (suffix.subset member))
      FlagReader.sets_nothing rfl reads
  unfold flagged at entered
  split at entered
  · cases entered
    exact .entered reader.names set sets
  · split at entered <;> cases entered
    exact .assigned set sets

theorem moves_of_open (opens : reader.open text = some (next, rest)) : reader.Moves text next := by
  rw [open_eq] at opens
  have suffix := skip_suffix reader.flags text
  generalize reader.flags.skip text = inner at opens suffix
  unfold openFrom at opens
  split at opens
  iterate 4 · cases opens
  iterate 2 · exact moves_of_enterNamed opens
  · exact moves_of_enterFlagged ((List.suffix_cons ..).trans suffix) opens
  · cases opens
    exact .entered reader.names {} fun _ => FlagReader.sets_nothing

theorem moves_of_single {c : Char} (takes : reader.single c = some next) :
    reader.Moves text next := by
  unfold Reader.single at takes
  split at takes
  · exact .left takes
  · cases takes
    exact .branched
  · rcases Option.map_eq_some_iff.mp takes with ⟨set, dots, rfl⟩
    exact .pushed _ fun _ => dotSet_caseless dots
  · cases takes
    exact .pushed _ fun _ => trivial
  · cases takes
    exact .pushed _ fun _ => trivial
  · rcases Option.map_eq_some_iff.mp takes with ⟨set, reads, rfl⟩
    exact .pushed _ fun ignores => charSet_caseless ignores reads

theorem moves_of_pushAtom {atom : Atom}
    (added : reader.flags.caseInsensitive = true -> atom.Caseless)
    (pushes : reader.pushAtom atom = some next) : reader.Moves text next := by
  rcases Option.map_eq_some_iff.mp pushes with ⟨regex, reads, rfl⟩
  refine .pushed _ fun ignores => ?_
  cases atom with
  | char c isByte =>
      rcases Option.map_eq_some_iff.mp reads with ⟨set, members, rfl⟩
      exact charSet_caseless ignores members
  | set set =>
      cases reads
      exact added ignores
  | look condition =>
      cases reads
      trivial

theorem moves_of_step {c : Char} (takes : reader.step c text = some (next, rest)) :
    reader.Moves text next := by
  cases leading c with
  | group => exact moves_of_open takes
  | bracket =>
      rw [step_bracket] at takes
      rcases Option.bind_eq_some_iff.mp takes with ⟨⟨set, left⟩, bracket, same⟩
      cases same
      exact .pushed _ fun ignores => readBracket_caseless ignores bracket
  | brace =>
      rw [step_brace] at takes
      rcases Option.bind_eq_some_iff.mp takes with ⟨_, -, takes⟩
      rcases Option.map_eq_some_iff.mp takes with ⟨_, repeats, same⟩
      cases same
      exact .repeated repeats
  | slash =>
      rw [step_slash] at takes
      rcases Option.bind_eq_some_iff.mp takes with ⟨⟨atom, left⟩, escape, takes⟩
      rcases Option.map_eq_some_iff.mp takes with ⟨_, pushes, same⟩
      cases same
      exact moves_of_pushAtom (fun ignores => readEscape_caseless ignores escape) pushes
  | repetition repeats =>
      rw [step_repetition reader text repeats] at takes
      rcases Option.map_eq_some_iff.mp takes with ⟨_, repeats, same⟩
      cases same
      exact .repeated repeats
  | single alone =>
      rw [alone] at takes
      rcases Option.map_eq_some_iff.mp takes with ⟨_, taken, same⟩
      cases same
      exact moves_of_single taken

end Moves

/-! ## What has been read -/

/-- Everything that has been read ignores letter case, in the current group and in those
around it. -/
structure Caseless (reader : Reader) : Prop where
  parts : ∀ part ∈ reader.parts, part.nested.regex.Caseless
  branches : ∀ branch ∈ reader.branches, branch.regex.Caseless
  framed : ∀ frame ∈ reader.frames, (∀ part ∈ frame.parts, part.nested.regex.Caseless) ∧
    ∀ branch ∈ frame.branches, branch.regex.Caseless

namespace Caseless

theorem fresh (flags : Flags) : Caseless { flags := flags } :=
  ⟨List.forall_mem_nil _, List.forall_mem_nil _, List.forall_mem_nil _⟩

variable {reader next : Reader} {text : List Char}

theorem body (caseless : reader.Caseless) : reader.body.regex.Caseless := by
  apply choice_caseless
  exact List.forall_mem_cons.mpr ⟨sequence_caseless caseless.parts, caseless.branches⟩

/-- While the flag is set, one part adds nothing that depends on letter case. -/
theorem moves (caseless : reader.Caseless) (ignores : reader.flags.caseInsensitive = true)
    (moves : reader.Moves text next) : next.Caseless := by
  cases moves with
  | pushed nested added =>
      exact ⟨List.forall_mem_cons.mpr ⟨added ignores, caseless.parts⟩, caseless.branches,
        caseless.framed⟩
  | branched =>
      have branch := sequence_caseless caseless.parts
      exact ⟨List.forall_mem_nil _, List.forall_mem_cons.mpr ⟨branch, caseless.branches⟩,
        caseless.framed⟩
  | repeated repeats =>
      unfold repeatLast at repeats
      split at repeats
      · next nested parts here =>
          have parts := List.forall_mem_cons.mp (here ▸ caseless.parts)
          cases repeats
          exact ⟨List.forall_mem_cons.mpr parts, caseless.branches, caseless.framed⟩
      · cases repeats
  | left leaves =>
      unfold leave at leaves
      split at leaves
      · cases leaves
      · next frame frames isOpen =>
          have framed := List.forall_mem_cons.mp (isOpen ▸ caseless.framed)
          cases leaves
          exact ⟨List.forall_mem_cons.mpr ⟨caseless.body, framed.1.1⟩, framed.1.2, framed.2⟩
  | entered names set sets =>
      have around := And.intro caseless.parts caseless.branches
      exact ⟨List.forall_mem_nil _, List.forall_mem_nil _,
        List.forall_mem_cons.mpr ⟨around, caseless.framed⟩⟩
  | assigned set sets =>
      exact ⟨List.forall_mem_cons.mpr ⟨trivial, caseless.parts⟩, caseless.branches,
        caseless.framed⟩

end Caseless

/-- Whether the flag for ignoring letter case is set wherever a part of a text is read.
It follows the reader, so that a text that is not read to its end is asked about only as
far as it is read. -/
def ignoresCase : Nat -> Reader -> List Char -> Bool
  | 0, _, _ => true
  | fuel + 1, reader, text =>
    reader.flags.caseInsensitive &&
      match reader.flags.skip text with
      | [] => true
      | c :: rest =>
        match reader.step c rest with
        | some (next, left) => ignoresCase fuel next left
        | none => true

theorem run_caseless {fuel : Nat} {reader : Reader} {text : List Char} {nested : Nested}
    (caseless : reader.Caseless) (ignores : reader.ignoresCase fuel text = true)
    (reads : reader.run fuel text = some nested) : nested.regex.Caseless := by
  induction fuel generalizing reader text with
  | zero => cases reads
  | succ fuel ih =>
      unfold run at reads
      rw [ignoresCase, Bool.and_eq_true] at ignores
      rcases ignores with ⟨here, later⟩
      cases begins : reader.flags.skip text with
      | nil =>
          simp only [begins] at reads
          split at reads <;> cases reads
          exact caseless.body
      | cons c rest =>
          simp only [begins] at reads later
          rcases Option.bind_eq_some_iff.mp reads with ⟨⟨next, left⟩, takes, reads⟩
          simp only [takes] at later
          exact ih (caseless.moves here (moves_of_step takes)) later reads

/-! ## Texts that cannot clear the flag -/

/-- The flag for ignoring letter case is set, and will be when a group is closed, since
closing a group brings back the flags from before it. -/
structure IgnoresCase (reader : Reader) : Prop where
  now : reader.flags.caseInsensitive = true
  later : ∀ frame ∈ reader.frames, frame.flags.caseInsensitive = true

theorem IgnoresCase.moves {reader next : Reader} {text : List Char} (ignores : reader.IgnoresCase)
    (noHyphen : '-' ∉ text) (moves : reader.Moves text next) : next.IgnoresCase := by
  cases moves with
  | pushed | branched => exact ⟨ignores.now, ignores.later⟩
  | repeated repeats =>
      unfold repeatLast at repeats
      split at repeats <;> cases repeats
      exact ⟨ignores.now, ignores.later⟩
  | left leaves =>
      unfold leave at leaves
      split at leaves
      · cases leaves
      · next frame frames isOpen =>
          have later := List.forall_mem_cons.mp (isOpen ▸ ignores.later)
          cases leaves
          exact ⟨later.1, later.2⟩
  | entered names set sets =>
      have now := FlagReader.apply_caseInsensitive (sets noHyphen) ignores.now
      exact ⟨now, List.forall_mem_cons.mpr ⟨ignores.now, ignores.later⟩⟩
  | assigned set sets =>
      exact ⟨FlagReader.apply_caseInsensitive (sets noHyphen) ignores.now, ignores.later⟩

theorem IgnoresCase.of_no_hyphen {reader : Reader} (ignores : reader.IgnoresCase) (fuel : Nat)
    {text : List Char} (noHyphen : '-' ∉ text) : reader.ignoresCase fuel text = true := by
  induction fuel generalizing reader text with
  | zero => rfl
  | succ fuel ih =>
      rw [ignoresCase, ignores.now, Bool.true_and]
      cases begins : reader.flags.skip text with
      | nil => rfl
      | cons c rest =>
          have inside : rest <:+ text :=
            (List.suffix_cons c rest).trans (begins ▸ skip_suffix reader.flags text)
          have behind : '-' ∉ rest := fun member => noHyphen (inside.subset member)
          cases takes : reader.step c rest with
          | none => simp only [takes]
          | some taken =>
              rcases taken with ⟨next, left⟩
              have suffix := step_suffix reader takes
              simp only [takes]
              exact ih (ignores.moves behind (moves_of_step takes))
                fun member => behind (suffix.subset member)

end Reader

end SecureSockets.Regex
