import SecureSockets.Proofs.Regex.Parts
import SecureSockets.Proofs.Regex.Spans

namespace SecureSockets.Regex

/-!
# Patterns in a frame

The text of a pattern is put between the opening of a group and its closing.  What is
read then is the pattern in a group of its own only as long as the pattern keeps its
parentheses to itself: a parenthesis that it does not open closes the group of the
frame, and a comment at its end hides the closing.

A scan reads a text as far as one group goes, up to the end or up to a parenthesis that
the text has not opened.  A reading in a frame is a scan, the closing of the frame, and
a reading of what remains; a reading without a frame is a scan that has to come to the
end.  Comparing two scans therefore compares the pattern alone with the pattern in its
frame.
-/

namespace Reader

/-! ## The amount of fuel -/

theorem run_enough {fuel fuel' : Nat} {reader : Reader} {text : List Char}
    (enough : text.length < fuel) (enough' : text.length < fuel') :
    reader.run fuel text = reader.run fuel' text := by
  induction fuel generalizing fuel' reader text with
  | zero => exact absurd enough (Nat.not_lt_zero _)
  | succ fuel ih =>
      cases fuel' with
      | zero => exact absurd enough' (Nat.not_lt_zero _)
      | succ fuel' =>
          have shorter := length_skip_le reader.flags text
          unfold run
          cases begins : reader.flags.skip text with
          | nil => rfl
          | cons c rest =>
              rw [begins, List.length_cons] at shorter
              apply Option.bind_congr
              intro p reads
              have left := (step_suffix reader reads).length_le
              exact ih (by omega) (by omega)

/-- Reads a text up to a parenthesis that it has not opened.  The reader itself fails at
such a parenthesis; a scan leaves it over, since in a frame it closes the frame's
group. -/
def scanWith : Nat -> Reader -> List Char -> Option (Reader × List Char)
  | 0, _, _ => none
  | fuel + 1, reader, text =>
    match reader.flags.skip text with
    | [] => some (reader, [])
    | c :: rest =>
      if c == ')' && reader.frames.isEmpty then some (reader, c :: rest)
      else (reader.step c rest).bind fun (reader, rest) => reader.scanWith fuel rest

theorem scanWith_enough {fuel fuel' : Nat} {reader : Reader} {text : List Char}
    (enough : text.length < fuel) (enough' : text.length < fuel') :
    reader.scanWith fuel text = reader.scanWith fuel' text := by
  induction fuel generalizing fuel' reader text with
  | zero => exact absurd enough (Nat.not_lt_zero _)
  | succ fuel ih =>
      cases fuel' with
      | zero => exact absurd enough' (Nat.not_lt_zero _)
      | succ fuel' =>
          have shorter := length_skip_le reader.flags text
          unfold scanWith
          cases begins : reader.flags.skip text with
          | nil => rfl
          | cons c rest =>
              rw [begins, List.length_cons] at shorter
              simp only
              split
              · rfl
              · apply Option.bind_congr
                intro p reads
                have left := (step_suffix reader reads).length_le
                exact ih (by omega) (by omega)

/-- A scan with fuel for every character of the text, and so for every part of it. -/
def scan (reader : Reader) (text : List Char) : Option (Reader × List Char) :=
  reader.scanWith (text.length + 1) text

/-! ## Scans -/

section Scan

variable {reader : Reader} {text rest : List Char}

theorem scan_ended (ends : reader.flags.skip text = []) :
    reader.scan text = some (reader, []) := by
  unfold scan scanWith
  rw [ends]

theorem scan_closed (closes : reader.flags.skip text = ')' :: rest)
    (unopened : reader.frames = []) : reader.scan text = some (reader, ')' :: rest) := by
  unfold scan scanWith
  rw [closes, unopened]
  rfl

theorem scan_part {c : Char} (begins : reader.flags.skip text = c :: rest)
    (inside : ¬(c = ')' ∧ reader.frames = [])) :
    reader.scan text = (reader.step c rest).bind fun p => p.1.scan p.2 := by
  have shorter := length_skip_le reader.flags text
  rw [begins, List.length_cons] at shorter
  have notClosed : (c == ')' && reader.frames.isEmpty) = false := by
    simpa [List.isEmpty_iff] using inside
  conv_lhs => unfold scan scanWith
  rw [begins]
  simp only [notClosed, Bool.false_eq_true, if_false]
  apply Option.bind_congr
  intro p reads
  have left := (step_suffix reader reads).length_le
  exact scanWith_enough (by omega) (Nat.lt_succ_self _)

/-- One step of a scan, by what is found behind the blanks. -/
inductive ScanStep (reader : Reader) (text : List Char) : Prop where
  | ended (ends : reader.flags.skip text = [])
  | closed (rest : List Char) (closes : reader.flags.skip text = ')' :: rest)
      (unopened : reader.frames = [])
  | part (c : Char) (rest : List Char) (begins : reader.flags.skip text = c :: rest)
      (inside : ¬(c = ')' ∧ reader.frames = [])) (shorter : rest.length < text.length)

theorem scanStep (reader : Reader) (text : List Char) : ScanStep reader text := by
  have shorter := length_skip_le reader.flags text
  cases begins : reader.flags.skip text with
  | nil => exact .ended begins
  | cons c rest =>
      by_cases closes : c = ')' ∧ reader.frames = []
      · exact .closed rest (closes.1 ▸ begins) closes.2
      · rw [begins, List.length_cons] at shorter
        exact .part c rest begins closes shorter

end Scan

/-- A scan stops at the end, or at a parenthesis when no group is open. -/
theorem scan_stops {reader reader' : Reader} {text rest : List Char}
    (scans : reader.scan text = some (reader', rest)) :
    rest <:+ text ∧ (rest = [] ∨ ∃ behind, rest = ')' :: behind ∧ reader'.frames = []) := by
  induction length : text.length using Nat.strong_induction_on generalizing reader text with
  | _ n ih =>
      subst length
      cases scanStep reader text with
      | ended ends =>
          rw [scan_ended ends] at scans
          cases scans
          exact ⟨List.nil_suffix, Or.inl rfl⟩
      | closed behind closes unopened =>
          rw [scan_closed closes unopened] at scans
          cases scans
          exact ⟨closes ▸ skip_suffix _ text, Or.inr ⟨behind, rfl, unopened⟩⟩
      | part c inner begins inside shorter =>
          rw [scan_part begins inside] at scans
          rcases Option.bind_eq_some_iff.mp scans with ⟨⟨next, left⟩, reads, scans⟩
          have left := step_suffix reader reads
          have later := ih _ (Nat.lt_of_le_of_lt left.length_le shorter) scans rfl
          have behind : inner <:+ text :=
            (List.suffix_cons c inner).trans (begins ▸ skip_suffix reader.flags text)
          exact ⟨later.1.trans (left.trans behind), later.2⟩

/-- A pattern is read by a scan that comes to the end with every group closed. -/
theorem run_eq_scan (reader : Reader) (text : List Char) :
    reader.run (text.length + 1) text =
      (reader.scan text).bind fun p =>
        if p.2.isEmpty && p.1.frames.isEmpty then some p.1.body else none := by
  induction length : text.length using Nat.strong_induction_on generalizing reader text with
  | _ n ih =>
      subst length
      cases scanStep reader text with
      | ended ends =>
          rw [scan_ended ends]
          unfold run
          rw [ends]
          rfl
      | closed behind closes unopened =>
          rw [scan_closed closes unopened]
          unfold run
          rw [closes]
          simp [step, leave, unopened]
      | part c rest begins inside shorter =>
          rw [scan_part begins inside]
          unfold run
          rw [begins, Option.bind_assoc]
          apply Option.bind_congr
          intro p reads
          have left := (step_suffix reader reads).length_le
          have next := ih _ (Nat.lt_of_le_of_lt left shorter) p.1 p.2 rfl
          rw [← next]
          exact run_enough (by omega) (Nat.lt_succ_self _)

/-! ## Readers inside a group -/

/-- The reader with a group around everything that it has opened. -/
def under (reader : Reader) (frame : GroupFrame) : Reader :=
  { reader with frames := reader.frames ++ [frame] }

/-- The reader behind the group around it, which has been closed.  What was read before
the group comes from the group's frame, and the group itself is one part more. -/
def resume (reader : Reader) (frame : GroupFrame) : Reader :=
  { reader with
    flags := frame.flags
    parts := .expression ⟨reader.body.regex, reader.body.depth + 1⟩ :: frame.parts
    branches := frame.branches
    frames := [] }

section Under

variable (reader : Reader) (frame : GroupFrame)

@[simp] theorem under_flags : (reader.under frame).flags = reader.flags := rfl

@[simp] theorem under_frames_isEmpty : (reader.under frame).frames.isEmpty = false := by
  simp [under]

theorem under_repeatLast (least : Nat) (most : Option Nat) :
    (reader.under frame).repeatLast least most =
      (reader.repeatLast least most).map fun r => r.under frame := by
  have sameParts : (reader.under frame).parts = reader.parts := rfl
  unfold repeatLast
  rw [sameParts]
  cases reader.parts with
  | nil => rfl
  | cons part parts =>
      cases part with
      | setting => rfl
      | expression nested => rfl

theorem under_leave (unopened : reader.frames = []) :
    (reader.under frame).leave = some (reader.resume frame) := by
  simp [under, leave, unopened, resume, body]

theorem under_leave_inner (opened : reader.frames ≠ []) :
    (reader.under frame).leave = reader.leave.map fun r => r.under frame := by
  rcases List.exists_cons_of_ne_nil opened with ⟨inner, frames, same⟩
  simp [under, leave, same, body]

theorem under_openFrom (text : List Char) :
    (reader.under frame).openFrom text =
      (reader.openFrom text).map fun p => (p.1.under frame, p.2) := by
  have named : ∀ text, (reader.under frame).enterNamed text =
      (reader.enterNamed text).map fun p => (p.1.under frame, p.2) := by
    intro text
    simp only [enterNamed_eq, Option.map_bind]
    apply Option.bind_congr
    intro p _
    have name : (reader.under frame).named p.1 =
        (reader.named p.1).map fun r => r.under frame := by
      unfold Reader.named
      show (if reader.names.contains p.1 then none else _) = _
      split <;> rfl
    simp only [name, Function.comp_apply, Option.map_map]
    rfl
  have flagged : ∀ text, (reader.under frame).enterFlagged text =
      (reader.enterFlagged text).map fun p => (p.1.under frame, p.2) := by
    intro text
    simp only [enterFlagged_eq, Option.map_bind]
    apply Option.bind_congr
    intro p _
    have set : (reader.under frame).flagged p.1.1 p.1.2 =
        (reader.flagged p.1.1 p.1.2).map fun r => r.under frame := by
      unfold Reader.flagged
      split
      · rfl
      · split <;> rfl
    simp only [set, Function.comp_apply, Option.map_map]
    rfl
  unfold openFrom
  split
  iterate 4 · rfl
  iterate 2 · exact named _
  · exact flagged _
  · rfl

theorem under_single {c : Char} (inside : ¬(c = ')' ∧ reader.frames = [])) :
    (reader.under frame).single c = (reader.single c).map fun r => r.under frame := by
  unfold single
  split
  · exact under_leave_inner reader frame fun unopened => inside ⟨rfl, unopened⟩
  · rfl
  · simp only [under_flags, Option.map_map]
    rfl
  · rfl
  · rfl
  · simp only [under_flags, Option.map_map]
    rfl

/-- A group around the reader makes no difference to a part, unless the part closes it. -/
theorem under_step {c : Char} (text : List Char) (inside : ¬(c = ')' ∧ reader.frames = [])) :
    (reader.under frame).step c text =
      (reader.step c text).map fun p => (p.1.under frame, p.2) := by
  cases leading c with
  | group => exact under_openFrom reader frame _
  | bracket =>
      simp only [step_bracket, Option.map_bind]
      rfl
  | brace =>
      simp only [step_brace, repeatBounds, Option.map_bind, under_repeatLast]
      apply Option.bind_congr
      intro p _
      simp only [Function.comp_apply, Option.map_map]
      rfl
  | slash =>
      simp only [step_slash, Option.map_bind]
      apply Option.bind_congr
      intro p _
      simp only [pushAtom, under_flags, Function.comp_apply, Option.map_map]
      rfl
  | repetition repeats =>
      simp only [step_repetition _ _ repeats, under_repeatLast, Option.map_map]
      rfl
  | single alone =>
      simp only [alone, under_single reader frame inside, Option.map_map]
      rfl

end Under

/-- Inside a group, a text is read as far as the group goes, and the rest of the text
continues what was in front of the group. -/
theorem run_under (reader : Reader) (frame : GroupFrame) (text : List Char) :
    (reader.under frame).run (text.length + 1) text =
      (reader.scan text).bind fun p =>
        match p.2 with
        | [] => none
        | _ :: rest => (p.1.resume frame).run (rest.length + 1) rest := by
  induction length : text.length using Nat.strong_induction_on generalizing reader text with
  | _ n ih =>
      subst length
      cases scanStep reader text with
      | ended ends =>
          rw [scan_ended ends]
          conv_lhs => unfold run
          simp [ends]
      | closed behind closes unopened =>
          have shorter := length_skip_le reader.flags text
          rw [closes, List.length_cons] at shorter
          rw [scan_closed closes unopened]
          conv_lhs => unfold run
          simp only [under_flags, closes, step, under_leave reader frame unopened,
            Option.map_some, Option.bind_some]
          exact run_enough (by omega) (Nat.lt_succ_self _)
      | part c rest begins inside shorter =>
          rw [scan_part begins inside]
          conv_lhs => unfold run
          simp only [under_flags, begins, under_step reader frame rest inside, Option.bind_map,
            Option.bind_assoc, Function.comp_def]
          apply Option.bind_congr
          intro p reads
          have left := (step_suffix reader reads).length_le
          have next := ih _ (Nat.lt_of_le_of_lt left shorter) p.1 p.2 rfl
          rw [← next]
          exact run_enough (by omega) (Nat.lt_succ_self _)

/-! ## Scans in front of a closing -/

/-- The scan of a text alone, compared with the scans of the text with a closing behind
it.  The text is read alone and the closing is kept or hidden; or the text closes a group
that it has not opened; or it is not read, with the closing or without. -/
inductive ScanAgrees (reader : Reader) (text : List Char) : Prop where
  | kept (last : Reader) (scans : reader.scan text = some (last, [])) (closed : last.frames = [])
      (same : ∀ s, Closing s -> reader.scan (text ++ s) = some (last, s))
  | hidden (last : Reader) (scans : reader.scan text = some (last, [])) (closed : last.frames = [])
      (same : ∀ s, Closing s -> reader.scan (text ++ s) = some (last, []))
  | escaped (last : Reader) (rest : List Char) (scans : reader.scan text = some (last, ')' :: rest))
      (same : ∀ s, Closing s -> reader.scan (text ++ s) = some (last, ')' :: (rest ++ s)))
  | unread
      (fails : ∀ last rest, reader.scan text = some (last, rest) -> rest = [] ∧ last.frames ≠ [])
      (late : ∀ s, Closing s -> ∀ last rest,
        reader.scan (text ++ s) = some (last, rest) -> rest = [])

/-- The next part is the same for all texts that a closing makes of one text. -/
theorem ScanAgrees.step {reader next : Reader} {text left : List Char}
    (alone : reader.scan text = next.scan left)
    (followed : ∀ s, Closing s -> reader.scan (text ++ s) = next.scan (left ++ s))
    (agrees : ScanAgrees next left) : ScanAgrees reader text := by
  cases agrees with
  | kept last scans closed same =>
      exact .kept last (alone.trans scans) closed fun s c => (followed s c).trans (same s c)
  | hidden last scans closed same =>
      exact .hidden last (alone.trans scans) closed fun s c => (followed s c).trans (same s c)
  | escaped last rest scans same =>
      exact .escaped last rest (alone.trans scans) fun s c => (followed s c).trans (same s c)
  | unread fails late =>
      refine .unread (fun last rest scans => fails last rest (alone.symm.trans scans)) ?_
      exact fun s c last rest scans => late s c last rest ((followed s c).symm.trans scans)

/-- Where the closing is hidden, both scans end together. -/
theorem ScanAgrees.end {reader last : Reader} {text : List Char}
    (alone : reader.scan text = some (last, []))
    (followed : ∀ s, Closing s -> reader.scan (text ++ s) = some (last, [])) :
    ScanAgrees reader text := by
  by_cases closed : last.frames = []
  · exact .hidden last alone closed followed
  · refine .unread ?_ ?_
    · intro last' rest scans
      cases alone.symm.trans scans
      exact ⟨rfl, closed⟩
    · intro s c last' rest scans
      cases (followed s c).symm.trans scans
      rfl

/-- Only the whole of a closing begins with its parenthesis. -/
theorem closing_of_parenthesis {s rest : List Char} (closing : Closing s)
    (suffix : ')' :: rest <:+ s) : ')' :: rest = s := by
  rcases suffix with ⟨before, same⟩
  cases before with
  | nil => exact same
  | cons c before =>
      cases closing with
      | parenthesis => simp at same
      | frame =>
          have behind : before ++ ')' :: rest = ['$'] := (List.cons.inj same).2
          cases before with
          | nil => exact absurd (List.cons.inj behind).1 (by decide)
          | cons d before => simp at behind

theorem scan_beyond {reader last : Reader} {s text left rest : List Char} (closing : Closing s)
    (suffix : left <:+ text ++ s) (short : left.length < s.length)
    (scans : reader.scan left = some (last, rest)) : rest = [] := by
  have stops := scan_stops scans
  rcases stops.2 with empty | ⟨behind, rfl, -⟩
  · exact empty
  · have inside : left <:+ s :=
      List.suffix_of_suffix_length_le suffix (List.suffix_append text s) (Nat.le_of_lt short)
    have whole := closing_of_parenthesis closing (stops.1.trans inside)
    have longer := stops.1.length_le
    rw [whole] at longer
    exact absurd longer (Nat.not_le_of_lt short)

/-- A brace without a number is no repetition. -/
theorem scan_brace {reader : Reader} {inner s : List Char} (closing : Closing s)
    (follows : reader.flags.skip inner = s) : reader.scan ('\x7b' :: inner) = none := by
  have begins : reader.flags.skip ('\x7b' :: inner) = '\x7b' :: inner := by
    have noBlank : Unicode.Property.isBlank '\x7b' = false := by decide
    unfold Flags.skip
    split
    · simp [Flags.dropBlanks, noBlank]
    · rfl
  have noCount : (readCount reader.flags s).1 = none := by
    rcases closing.exists_eq_cons with ⟨after, rfl⟩
    have noDigit : Char.isDigit ')' = false := by decide
    simp [readCount, isBlank_parenthesis, readDigits, noDigit]
  have refused : reader.repeatBounds inner = none := by
    unfold repeatBounds
    rw [readBounds_eq, follows, Option.bind_some, noCount]
    rfl
  rw [scan_part begins (by simp), step_brace, refused]
  rfl

/-- At the end of a text, only the groups that are still open make a difference. -/
theorem scan_agrees_of_ended {reader : Reader} {text : List Char}
    (ends : reader.flags.skip text = [])
    (same : ∀ s, Closing s -> reader.flags.skip (text ++ s) = reader.flags.skip text ++ s) :
    ScanAgrees reader text := by
  have next : ∀ s, Closing s -> reader.flags.skip (text ++ s) = s :=
    fun s closing => by rw [same s closing, ends, List.nil_append]
  by_cases closed : reader.frames = []
  · refine .kept reader (scan_ended ends) closed fun s closing => ?_
    rcases closing.exists_eq_cons with ⟨after, rfl⟩
    exact scan_closed (next _ closing) closed
  · refine .unread ?_ ?_
    · intro last rest scans
      cases (scan_ended ends).symm.trans scans
      exact ⟨rfl, closed⟩
    · intro s closing last rest scans
      rcases closing.exists_eq_cons with ⟨after, rfl⟩
      rw [scan_part (next _ closing) fun both => closed both.2] at scans
      rcases Option.bind_eq_some_iff.mp scans with ⟨⟨inner, left⟩, reads, scans⟩
      have suffix := step_suffix reader reads
      have behind : left <:+ [] ++ ')' :: after := suffix.trans (List.suffix_cons _ _)
      exact scan_beyond closing behind (Nat.lt_succ_of_le suffix.length_le) scans

/-- A part is read the same way in front of a closing, or the closing is hidden, or
neither scan comes to an end. -/
theorem scan_agrees_of_part {reader : Reader} {text rest : List Char} {c : Char}
    (alone : reader.scan text = (reader.step c rest).bind fun p => p.1.scan p.2)
    (followed : ∀ s, Closing s -> reader.scan (text ++ s) =
      (reader.step c (rest ++ s)).bind fun p => p.1.scan p.2)
    (others : ∀ next left, reader.step c rest = some (next, left) -> ScanAgrees next left) :
    ScanAgrees reader text := by
  cases reader.step_agrees c rest with
  | kept next left reads kept =>
      have stepped : reader.scan text = next.scan left := by
        rw [alone, reads, Option.bind_some]
      refine .step stepped (fun s closing => ?_) (others next left reads)
      rw [followed s closing, kept s closing, Option.bind_some]
  | hidden next reads hidden =>
      have ends := scan_ended (skip_nil next.flags)
      have stepped : reader.scan text = some (next, []) := by
        rw [alone, reads, Option.bind_some, ends]
      apply ScanAgrees.end stepped
      intro s closing
      rw [followed s closing, hidden s closing, Option.bind_some, ends]
  | failed fails late =>
      refine .unread ?_ ?_
      · intro last rest scans
        rw [alone, fails] at scans
        cases scans
      · intro s closing last rest' scans
        rw [followed s closing] at scans
        rcases Option.bind_eq_some_iff.mp scans with ⟨⟨next, left⟩, reads, scans⟩
        rcases late s closing next left reads with short | ⟨inner, rfl, follows⟩
        · exact scan_beyond closing (step_suffix reader reads) short scans
        · rw [scan_brace closing follows] at scans
          cases scans

theorem scan_agrees (reader : Reader) (text : List Char) : ScanAgrees reader text := by
  induction length : text.length using Nat.strong_induction_on generalizing reader text with
  | _ n ih =>
      subst length
      rcases skip_append reader.flags text with same | ⟨empty, swallowed⟩
      · cases scanStep reader text with
        | ended ends => exact scan_agrees_of_ended ends same
        | closed rest closes unopened =>
            refine .escaped reader rest (scan_closed closes unopened) fun s closing => ?_
            apply scan_closed _ unopened
            rw [same s closing, closes, List.cons_append]
        | part c rest begins inside shorter =>
            refine scan_agrees_of_part (scan_part begins inside) ?_ ?_
            · intro s closing
              apply scan_part _ inside
              rw [same s closing, begins, List.cons_append]
            · intro next left reads
              have suffix := step_suffix reader reads
              exact ih _ (Nat.lt_of_le_of_lt suffix.length_le shorter) next left rfl
      · have ends : ∀ s, Closing s -> reader.scan (text ++ s) = some (reader, []) :=
          fun s closing => scan_ended (swallowed s closing)
        exact .end (scan_ended empty) ends

end Reader

end SecureSockets.Regex
