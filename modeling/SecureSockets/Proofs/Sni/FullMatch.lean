import SecureSockets.Proofs.Regex.Frames
import SecureSockets.Sni.Matcher

namespace SecureSockets.Sni

open Regex (Closing Compiler GroupFrame MatchesWhole Nested Reader)

/-!
# The contract of host patterns

A host pattern is promised to match whole names only, and to be refused when it is no
regular expression.  The promise is kept by pasting the text of the pattern into a
frame, so it can only be kept for patterns that the frame keeps together.

Two kinds of patterns are not kept together.  A pattern that ends inside a comment hides
the closing of the frame, and is refused although it is a regular expression.  A pattern
that closes the group of the frame by itself is no regular expression, but may become
one in the frame, and what it then matches need not be a whole name.  For all other
patterns the promise is kept, whichever compiler of patterns is used and whatever sizes
it admits.
-/

namespace HostPattern

def flags : Regex.Flags := { caseInsensitive := true }

/-- A pattern by itself.  This is what the documentation of a matcher speaks of, while the
program only ever reads the pattern in its frame. -/
def alone? (pattern : List Char) : Option Nested :=
  Regex.read? flags pattern

/-- What a pattern becomes in its frame: the frame is a sequence with a group in it, which
makes two more levels. -/
def anchoredBody (body : Nested) : Nested :=
  ⟨Regex.anchored body.regex, body.depth + 2⟩

/-- The reader behind the opening of the frame, as it would be without the frame. -/
def start : Reader := { flags := flags }

def frame : GroupFrame := ⟨[.expression ⟨.look .textStart, 0⟩], [], flags⟩

/-- What the frame reads when the pattern closes the group of the frame by itself: the
rest of the pattern stands behind that group then, and so does the closing. -/
def brokenOut? (pattern : List Char) : Option Nested :=
  (start.scan pattern).bind fun p =>
    match p.2 with
    | [] => none
    | _ :: rest =>
      (p.1.resume frame).run ((rest ++ ")$".toList).length + 1) (rest ++ ")$".toList)

/-- The pattern ends in a comment, so that a parenthesis behind it makes no difference. -/
def HidesClosing (compiler : Compiler) (pattern : List Char) : Prop :=
  ∃ body, alone? pattern = some body ∧ compiler.accepts (anchoredBody body) ∧
    (alone? (pattern ++ [')'])).isSome

/-- The pattern closes the group of the frame, and what it makes of the frame can be
read. -/
def BreaksOut (compiler : Compiler) (pattern : List Char) : Prop :=
  ∃ nested, brokenOut? pattern = some nested ∧ compiler.accepts nested

/-! ## Reading the frame -/

/-- The frame is read as a group around a scan of what stands inside. -/
theorem read?_framed_eq_scan (pattern : List Char) :
    Regex.read? flags (framed pattern) =
      (start.scan (pattern ++ ")$".toList)).bind fun p =>
        match p.2 with
        | [] => none
        | _ :: rest => (p.1.resume frame).run (rest.length + 1) rest := by
  have opened : Regex.read? flags (framed pattern) =
      (start.under frame).run ((pattern ++ ")$".toList).length + 3) (pattern ++ ")$".toList) := rfl
  have inGroup := Reader.run_under start frame (pattern ++ ")$".toList)
  rw [opened]
  exact (Reader.run_enough (by omega) (by omega)).trans inGroup

theorem alone?_eq_scan (pattern : List Char) :
    alone? pattern =
      (start.scan pattern).bind fun p =>
        if p.2.isEmpty && p.1.frames.isEmpty then some p.1.body else none :=
  Reader.run_eq_scan start pattern

theorem alone?_of_ended {text : List Char} {last : Reader}
    (scans : start.scan text = some (last, [])) (closed : last.frames = []) :
    alone? text = some last.body := by
  rw [alone?_eq_scan, scans, Option.bind_some, closed]
  rfl

theorem alone?_of_left {text rest : List Char} {c : Char} {last : Reader}
    (scans : start.scan text = some (last, c :: rest)) : alone? text = none := by
  rw [alone?_eq_scan, scans]
  rfl

/-- The end of the frame, behind a pattern that the frame has kept together. -/
theorem run_resume (last : Reader) :
    (last.resume frame).run 2 ['$'] = some (anchoredBody last.body) := by
  have depth : max (max 0 (last.body.depth + 1)) 0 + 1 = last.body.depth + 2 := by omega
  show some (Nested.mk (Regex.anchored last.body.regex)
    (max (max 0 (last.body.depth + 1)) 0 + 1)) = _
  rw [depth]
  rfl

/-- What a pattern becomes in the frame, by what it is alone. -/
theorem read?_framed (pattern : List Char) :
    Regex.read? flags (framed pattern) =
      match alone? pattern with
      | some body =>
        if (alone? (pattern ++ [')'])).isSome then none else some (anchoredBody body)
      | none => brokenOut? pattern := by
  have inFrame : Closing ")$".toList := .frame
  rw [read?_framed_eq_scan]
  cases start.scan_agrees pattern with
  | kept last scans closed same =>
      have behind : alone? (pattern ++ [')']) = none := alone?_of_left (same _ .parenthesis)
      rw [alone?_of_ended scans closed, behind, same _ inFrame]
      exact run_resume last
  | hidden last scans closed same =>
      have behind : alone? (pattern ++ [')']) = some last.body :=
        alone?_of_ended (same _ .parenthesis) closed
      rw [alone?_of_ended scans closed, behind, same _ inFrame]
      rfl
  | escaped last rest scans same =>
      rw [alone?_of_left scans, same _ inFrame, brokenOut?, scans]
      rfl
  | unread fails late =>
      have alone : alone? pattern = none := by
        rw [alone?_eq_scan]
        cases scans : start.scan pattern with
        | none => rfl
        | some p =>
            have opened := (fails p.1 p.2 scans).2
            simp [List.isEmpty_iff, opened]
      have unbroken : brokenOut? pattern = none := by
        rw [brokenOut?]
        cases scans : start.scan pattern with
        | none => rfl
        | some p => rw [Option.bind_some, (fails p.1 p.2 scans).1]
      rw [alone, unbroken]
      cases scans : start.scan (pattern ++ ")$".toList) with
      | none => rfl
      | some p => rw [Option.bind_some, late _ inFrame p.1 p.2 scans]

/-- A pattern that can be read by itself closes no group that it has not opened. -/
theorem brokenOut?_of_alone {pattern : List Char} {body : Nested}
    (alone : alone? pattern = some body) : brokenOut? pattern = none := by
  rw [alone?_eq_scan] at alone
  rcases Option.bind_eq_some_iff.mp alone with ⟨⟨last, rest⟩, scans, ended⟩
  rw [brokenOut?, scans]
  cases rest with
  | nil => rfl
  | cons c rest => cases ended

/-- Nothing but the anchored pattern can become of a pattern that can be read by itself. -/
theorem read?_framed_of_alone {pattern : List Char} {body nested : Nested}
    (alone : alone? pattern = some body)
    (reads : Regex.read? flags (framed pattern) = some nested) :
    nested = anchoredBody body ∧ alone? (pattern ++ [')']) = none := by
  rw [read?_framed, alone] at reads
  simp only at reads
  split at reads
  · cases reads
  · next shown =>
      have hidden : alone? (pattern ++ [')']) = none := by simpa using shown
      exact ⟨(Option.some.inj reads).symm, hidden⟩

theorem ofText?_eq_some_iff (compiler : Compiler) (pattern : List Char)
    (hostPattern : HostPattern) :
    ofText? compiler pattern = some hostPattern ↔
      ∃ nested, Regex.read? flags (framed pattern) = some nested ∧ compiler.accepts nested ∧
        hostPattern = ⟨nested.regex⟩ := by
  unfold ofText? Regex.ofPattern?
  show (((Regex.read? flags (framed pattern)).filter _).map _).map _ = _ ↔ _
  cases Regex.read? flags (framed pattern) with
  | none => simp
  | some nested =>
      cases fits : compiler.accepts nested with
      | false =>
          rw [Option.filter_some_neg fits]
          simp [fits]
      | true =>
          rw [Option.filter_some_pos fits]
          constructor
          · intro made
            exact ⟨nested, rfl, fits, (Option.some.inj made).symm⟩
          · rintro ⟨_, ⟨⟩, -, rfl⟩
            rfl

theorem matchesAscii_anchored (body : Nested) (codec : LabelCodec) (ascii : List Char) :
    (HostPattern.mk (anchoredBody body).regex).matchesAscii codec ascii = true ↔
      MatchesWhole body.regex ascii ∨ MatchesWhole body.regex (toUnicode codec ascii) := by
  have whole := Regex.isMatch_anchored_iff body.regex
  simp only [matchesAscii, anchoredBody, Bool.or_eq_true, whole]

theorem test_value (hostPattern : HostPattern) (codec : LabelCodec) {name : ServerName}
    {ascii : List Char} (form : asciiForm? codec name = some ascii) (log : Log) :
    ((hostPattern.test codec name).run log).1 = hostPattern.matchesAscii codec ascii := by
  unfold test
  rw [form]
  rfl

end HostPattern

namespace Matcher

open HostPattern

variable (compiler : Compiler) (codec : LabelCodec) (identity : Nat)

theorem ofPattern_ok_iff (pattern : List Char) (matcher : Matcher) :
    ofPattern compiler codec identity pattern = .ok matcher ↔
      ∃ nested, Regex.read? flags (framed pattern) = some nested ∧ compiler.accepts nested ∧
        matcher = ⟨identity, hostNameType, (HostPattern.mk nested.regex).test codec⟩ := by
  unfold ofPattern
  cases found : ofText? compiler pattern with
  | none =>
      constructor
      · exact nofun
      · rintro ⟨nested, reads, fits, -⟩
        have made := ofText?_eq_some_iff compiler pattern ⟨nested.regex⟩
        exact absurd (found.symm.trans (made.mpr ⟨nested, reads, fits, rfl⟩)) nofun
  | some hostPattern =>
      rcases (ofText?_eq_some_iff compiler pattern hostPattern).mp found with
        ⟨nested, reads, fits, rfl⟩
      constructor
      · intro made
        exact ⟨nested, reads, fits, (Except.ok.inj made).symm⟩
      · rintro ⟨nested', reads', -, rfl⟩
        cases reads.symm.trans reads'
        rfl

theorem ofPattern_accepts_iff (pattern : List Char) :
    (∃ matcher, ofPattern compiler codec identity pattern = .ok matcher) ↔
      ∃ nested, Regex.read? flags (framed pattern) = some nested ∧ compiler.accepts nested := by
  simp only [ofPattern_ok_iff]
  constructor
  · rintro ⟨_, nested, reads, fits, -⟩
    exact ⟨nested, reads, fits⟩
  · rintro ⟨nested, reads, fits⟩
    exact ⟨_, nested, reads, fits, rfl⟩

theorem ofPattern_error (pattern : List Char) {error : Error}
    (fails : ofPattern compiler codec identity pattern = .error error) :
    error = .invalidArgument ("invalid SNI pattern: " ++ compiler.explain (framed pattern)) := by
  unfold ofPattern at fails
  split at fails
  · cases fails
  · exact (Except.error.inj fails).symm

/-- What a pattern is promised.  It makes a matcher exactly if it is a regular expression
by itself and no limit of the compiler stands in the way; otherwise it is an invalid
argument.  The matcher accepts the names with an ASCII form that the pattern matches as a
whole, in that form or in the Unicode form. -/
structure KeepsContract (pattern : List Char) : Prop where
  accepts : ∀ body, alone? pattern = some body ->
    ((∃ matcher, ofPattern compiler codec identity pattern = .ok matcher) ↔
      compiler.accepts (anchoredBody body))
  refuses : alone? pattern = none ->
    ∀ matcher, ofPattern compiler codec identity pattern ≠ .ok matcher
  fails : ∀ error, ofPattern compiler codec identity pattern = .error error ->
    error = .invalidArgument ("invalid SNI pattern: " ++ compiler.explain (framed pattern))
  matchesWhole : ∀ matcher, ofPattern compiler codec identity pattern = .ok matcher ->
    ∃ body, alone? pattern = some body ∧
      ∀ name ascii, asciiForm? codec name = some ascii -> ∀ log,
        (((matcher.test name).run log).1 = true ↔
          MatchesWhole body.regex ascii ∨ MatchesWhole body.regex (toUnicode codec ascii))

theorem accepts_of_shown {pattern : List Char} {body : Nested}
    (alone : alone? pattern = some body) (shown : ¬HidesClosing compiler pattern) :
    (∃ matcher, ofPattern compiler codec identity pattern = .ok matcher) ↔
      compiler.accepts (anchoredBody body) := by
  rw [ofPattern_accepts_iff]
  constructor
  · rintro ⟨nested, reads, fits⟩
    have same := (read?_framed_of_alone alone reads).1
    exact same ▸ fits
  · intro fits
    have visible : (alone? (pattern ++ [')'])).isSome = false := by
      cases behind : (alone? (pattern ++ [')'])).isSome with
      | false => rfl
      | true => exact absurd ⟨body, alone, fits, behind⟩ shown
    refine ⟨anchoredBody body, ?_, fits⟩
    rw [read?_framed, alone]
    simp only [visible, Bool.false_eq_true, if_false]

theorem refuses_of_kept {pattern : List Char} (unread : alone? pattern = none)
    (kept : ¬BreaksOut compiler pattern) (matcher : Matcher) :
    ofPattern compiler codec identity pattern ≠ .ok matcher := by
  intro accepted
  rcases (ofPattern_ok_iff compiler codec identity pattern matcher).mp accepted with
    ⟨nested, reads, fits, -⟩
  rw [read?_framed, unread] at reads
  exact kept ⟨nested, reads, fits⟩

/-- The matcher of a pattern that can be read by itself tests for whole names. -/
theorem matchesWhole_of_alone {pattern : List Char} {body : Nested}
    (alone : alone? pattern = some body) {matcher : Matcher}
    (accepted : ofPattern compiler codec identity pattern = .ok matcher) {name : ServerName}
    {ascii : List Char} (form : asciiForm? codec name = some ascii) (log : Log) :
    ((matcher.test name).run log).1 = true ↔
      MatchesWhole body.regex ascii ∨ MatchesWhole body.regex (toUnicode codec ascii) := by
  rcases (ofPattern_ok_iff compiler codec identity pattern matcher).mp accepted with
    ⟨nested, reads, -, rfl⟩
  rw [(read?_framed_of_alone alone reads).1]
  simp only [test_value _ codec form log]
  exact matchesAscii_anchored body codec ascii

/-- The promise is kept for a pattern exactly if the frame keeps the pattern together. -/
theorem keepsContract_iff (pattern : List Char) :
    KeepsContract compiler codec identity pattern ↔
      ¬HidesClosing compiler pattern ∧ ¬BreaksOut compiler pattern := by
  constructor
  · intro contract
    constructor
    · rintro ⟨body, alone, fits, behind⟩
      rcases (contract.accepts body alone).mpr fits with ⟨matcher, accepted⟩
      rcases (ofPattern_ok_iff compiler codec identity pattern matcher).mp accepted with
        ⟨_, reads, -, -⟩
      rw [(read?_framed_of_alone alone reads).2] at behind
      cases behind
    · rintro ⟨nested, broken, fits⟩
      cases alone : alone? pattern with
      | some body =>
          rw [brokenOut?_of_alone alone] at broken
          cases broken
      | none =>
          have reads : Regex.read? flags (framed pattern) = some nested := by
            rw [read?_framed, alone]
            exact broken
          apply contract.refuses alone
          exact (ofPattern_ok_iff compiler codec identity pattern _).mpr ⟨nested, reads, fits, rfl⟩
  · rintro ⟨shown, kept⟩
    constructor
    · exact fun body alone => accepts_of_shown compiler codec identity alone shown
    · exact fun unread => refuses_of_kept compiler codec identity unread kept
    · exact fun _ => ofPattern_error compiler codec identity pattern
    · intro matcher accepted
      cases alone : alone? pattern with
      | none => exact absurd accepted (refuses_of_kept compiler codec identity alone kept matcher)
      | some body =>
          refine ⟨body, rfl, fun name ascii form log => ?_⟩
          exact matchesWhole_of_alone compiler codec identity alone accepted form log

/-- A pattern that is no regular expression makes a matcher, which accepts a name of which
the pattern has only matched the first character; and a regular expression that ends in a
comment makes none. -/
theorem contract_broken :
    (¬KeepsContract .estimating .international 0 "a)|(?:b".toList ∧
      (ofText? .estimating "a)|(?:b".toList).map (fun hostPattern =>
        hostPattern.matchesAscii .international "ax".toList) = some true) ∧
    ¬KeepsContract .estimating .international 0 "(?x)a#".toList := by
  refine ⟨⟨?_, by decide +kernel⟩, ?_⟩
  · intro contract
    have unread : alone? "a)|(?:b".toList = none := Option.isNone_iff_eq_none.mp (by decide)
    cases found : ofText? .estimating "a)|(?:b".toList with
    | none =>
        have accepted : (ofText? .estimating "a)|(?:b".toList).isSome = true := by decide
        rw [found] at accepted
        cases accepted
    | some hostPattern =>
        apply contract.refuses unread
        unfold ofPattern
        rw [found]
  · intro contract
    have reads : (alone? "(?x)a#".toList).isSome = true := by decide
    have fits : (alone? "(?x)a#".toList).all (fun body =>
        Compiler.estimating.accepts (anchoredBody body)) = true := by decide
    have refused : ofText? .estimating "(?x)a#".toList = none :=
      Option.isNone_iff_eq_none.mp (by decide)
    rcases Option.isSome_iff_exists.mp reads with ⟨body, alone⟩
    rw [alone, Option.all_some] at fits
    rcases (contract.accepts body alone).mpr fits with ⟨matcher, accepted⟩
    unfold ofPattern at accepted
    rw [refused] at accepted
    cases accepted

end Matcher

end SecureSockets.Sni
