import SecureSockets.Proofs.Regex.Escapes
import SecureSockets.Regex.Bracket

namespace SecureSockets.Regex

open Unicode

/-!
# Reading the members of classes in front of a closing

A class in brackets has a beginning, where hyphens and a closing bracket may stand for
themselves, and then members: characters, escapes, ranges and named classes.

The beginning of a class and a member may be taken from the closing when the pattern ends
in front of them, and then leave the whole of it over.  A parenthesis ends no name and
no range, so that nothing which the pattern has begun is completed by a closing.
-/

/-! ## The beginning of a class -/

theorem readLeadingHyphens_suffix (flags : Flags) (fuel : Nat) (members : Members)
    (text : List Char) : (readLeadingHyphens flags fuel members text).2 <:+ text := by
  induction fuel generalizing members text with
  | zero => exact List.suffix_rfl
  | succ fuel ih =>
      by_cases hyphen : text.head? = some '-'
      · rcases List.head?_eq_some_iff.mp hyphen with ⟨rest, rfl⟩
        exact (ih _ _).trans ((skip_suffix flags rest).trans (List.suffix_cons '-' rest))
      · unfold readLeadingHyphens
        split
        · exact absurd rfl hyphen
        · exact List.suffix_rfl

theorem readLeadingHyphens_of_no_hyphen (flags : Flags) (fuel : Nat) (members : Members)
    {text : List Char} (noHyphen : text.head? ≠ some '-') :
    readLeadingHyphens flags fuel members text = (members, text) := by
  unfold readLeadingHyphens
  split
  · exact absurd rfl noHyphen
  · rfl

theorem readLeadingHyphens_nil (flags : Flags) (fuel : Nat) (members : Members) :
    readLeadingHyphens flags fuel members [] = (members, []) :=
  readLeadingHyphens_of_no_hyphen flags fuel members nofun

theorem readLeadingHyphens_agrees (flags : Flags) (fuel : Nat) (fuel' : List Char -> Nat)
    (members : Members) (text : List Char) (enough : text.length < fuel)
    (enough' : ∀ s, Closing s -> text.length + s.length < fuel' s) :
    Agrees Beyond (some (readLeadingHyphens flags fuel members text))
      fun s => some (readLeadingHyphens flags (fuel' s) members (text ++ s)) := by
  induction fuel generalizing fuel' members text with
  | zero => exact absurd enough (Nat.not_lt_zero _)
  | succ fuel ih =>
      by_cases hyphen : text.head? = some '-'
      · rcases List.head?_eq_some_iff.mp hyphen with ⟨rest, rfl⟩
        refine .congr (fun s =>
          some (readLeadingHyphens flags ((fuel' s - 1) + 1) members ('-' :: (rest ++ s)))) ?_ ?_
        · simp only [readLeadingHyphens]
          refine .skip (fun rest => some (readLeadingHyphens flags fuel _ rest))
            (fun s rest => some (readLeadingHyphens flags (fuel' s - 1) _ rest))
            (ih _ _ _ ?_ ?_) ?_
          · exact Nat.lt_of_le_of_lt (length_skip_le flags rest) (Nat.lt_of_succ_lt_succ enough)
          · intro s closing
            have := enough' s closing
            have := length_skip_le flags rest
            rw [List.length_cons] at *
            omega
          · simp only [readLeadingHyphens_nil]
            exact .hidden _ rfl fun _ _ => rfl
        · intro s closing
          have := enough' s closing
          rw [List.cons_append, Nat.sub_add_cancel (by omega)]
      · rw [readLeadingHyphens_of_no_hyphen flags _ members hyphen]
        refine .kept members text rfl fun s closing => ?_
        rw [readLeadingHyphens_of_no_hyphen flags _ members
          (head?_append_closing closing (by decide) hyphen)]

def readNegation (flags : Flags) : List Char -> Bool × List Char
  | '^' :: rest => (true, flags.skip rest)
  | text => (false, text)

/-- The beginning of a class behind its negation and its leading hyphens.  A bracket there
is a member, as the class would be empty otherwise. -/
def beginMembers (flags : Flags) (negated startsWithHyphen : Bool) (members : Members)
    (text : List Char) : Option (Bool × Members × List Char) :=
  match text with
  | [] => none
  | ']' :: rest =>
    if startsWithHyphen then some (negated, members, text)
    else
      match flags.skip rest with
      | [] => none
      | text => some (negated, members.addFlat (.singleton ']'), text)
  | text => some (negated, members, text)

theorem openClass_eq (flags : Flags) (text : List Char) :
    openClass flags text =
      (some (readNegation flags (flags.skip text))).bind fun p =>
        (some (readLeadingHyphens flags (p.2.length + 1) {} p.2)).bind fun q =>
          beginMembers flags p.1 (p.2.head? == some '-') q.1 q.2 := rfl

/-- The beginning of a class, with what it amounts to apart from what is left over, as a
comparison of two readings asks for it. -/
def beginClass (flags : Flags) (text : List Char) : Option ((Bool × Members) × List Char) :=
  (openClass flags text).map fun p => ((p.1, p.2.1), p.2.2)

theorem openClass_bind {β : Type} (flags : Flags) (text : List Char)
    (next : Bool -> Members -> List Char -> Option β) :
    ((openClass flags text).bind fun (negated, members, rest) => next negated members rest) =
      (beginClass flags text).bind fun p => next p.1.1 p.1.2 p.2 := by
  rw [beginClass, Option.bind_map]
  rfl

theorem readNegation_suffix (flags : Flags) (text : List Char) :
    (readNegation flags text).2 <:+ text := by
  unfold readNegation
  split
  · exact (skip_suffix flags _).trans (List.suffix_cons _ _)
  · exact List.suffix_rfl

theorem readNegation_agrees (flags : Flags) (text : List Char) :
    Agrees Beyond (some (readNegation flags text))
      fun s => some (readNegation flags (text ++ s)) := by
  by_cases caret : text.head? = some '^'
  · rcases List.head?_eq_some_iff.mp caret with ⟨rest, rfl⟩
    exact .skip_rest flags true rest
  · have plain : ∀ text : List Char, text.head? ≠ some '^' ->
        readNegation flags text = (false, text) := by
      intro text other
      unfold readNegation
      split
      · exact absurd rfl other
      · rfl
    rw [plain text caret]
    refine .kept false text rfl fun s closing => ?_
    rw [plain (text ++ s) (head?_append_closing closing (by decide) caret)]

theorem beginMembers_suffix (flags : Flags) {negated negated' startsWithHyphen : Bool}
    {members members' : Members} {text rest : List Char}
    (reads : beginMembers flags negated startsWithHyphen members text =
      some (negated', members', rest)) :
    rest <:+ text := by
  unfold beginMembers at reads
  split at reads
  · cases reads
  · split at reads
    · cases reads
      exact List.suffix_rfl
    · split at reads
      · cases reads
      · cases reads
        exact (skip_suffix flags _).trans (List.suffix_cons _ _)
  · cases reads
    exact List.suffix_rfl

theorem openClass_suffix (flags : Flags) {negated : Bool} {members : Members}
    {text rest : List Char}
    (reads : openClass flags text = some (negated, members, rest)) : rest <:+ flags.skip text := by
  rw [openClass_eq, Option.bind_some, Option.bind_some] at reads
  exact (beginMembers_suffix flags reads).trans
    ((readLeadingHyphens_suffix flags _ _ _).trans (readNegation_suffix flags _))

theorem beginClass_suffix (flags : Flags) {x : Bool × Members} {text rest : List Char}
    (reads : beginClass flags text = some (x, rest)) : rest <:+ text := by
  rcases Option.map_eq_some_iff.mp reads with ⟨⟨_, _, _⟩, opened, same⟩
  cases same
  exact (openClass_suffix flags opened).trans (skip_suffix flags text)

/-- What is known of the beginning of a class, with what is left over set apart. -/
private theorem beginMembers_agrees (flags : Flags) (negated startsWithHyphen : Bool)
    (members : Members) (text : List Char) :
    Agrees Into ((beginMembers flags negated startsWithHyphen members text).map
        fun p => ((p.1, p.2.1), p.2.2))
      fun s => (beginMembers flags negated startsWithHyphen members (text ++ s)).map
        fun p => ((p.1, p.2.1), p.2.2) := by
  have plain : ∀ {c : Char} (rest : List Char), c ≠ ']' ->
      beginMembers flags negated startsWithHyphen members (c :: rest) =
        some (negated, members, c :: rest) := by
    intro c rest other
    unfold beginMembers
    split
    · contradiction
    · next same => exact absurd (List.cons.inj same).1 other
    · rfl
  cases text with
  | nil =>
      refine .failed rfl ?_
      intro s closing x rest reads
      rcases closing.exists_eq_cons with ⟨after, rfl⟩
      rw [List.nil_append, plain after (by decide)] at reads
      cases reads
      exact Nat.le_refl _
  | cons c text =>
      by_cases bracket : c = ']'
      · subst bracket
        cases startsWithHyphen with
        | true => exact .kept (negated, members) (']' :: text) rfl fun _ _ => rfl
        | false =>
            have found : ∀ text : List Char,
                beginMembers flags negated false members (']' :: text) =
                  if (flags.skip text).isEmpty then none
                  else some (negated, members.addFlat (.singleton ']'), flags.skip text) := by
              intro text
              simp only [beginMembers, Bool.false_eq_true, if_false]
              split
              · next empty => rw [empty]; rfl
              · next after other =>
                  cases skipped : flags.skip text with
                  | nil => exact absurd skipped other
                  | cons c rest => rfl
            rw [found]
            refine .congr _ ?_ fun s _ => congrArg _ (found (text ++ s))
            rcases skip_append flags text with same | ⟨empty, swallowed⟩
            · cases skipped : flags.skip text with
              | nil =>
                  refine .failed rfl ?_
                  intro s closing x rest reads
                  rw [same s closing, skipped, List.nil_append] at reads
                  rcases closing.exists_eq_cons with ⟨after, rfl⟩
                  cases reads
                  exact Nat.le_refl _
              | cons c rest =>
                  apply Agrees.kept (negated, members.addFlat (.singleton ']')) (c :: rest) rfl
                  intro s closing
                  rw [same s closing, skipped]
                  rfl
            · rw [empty]
              refine .none fun s closing => ?_
              rw [swallowed s closing]
              rfl
      · rw [plain text bracket]
        exact .kept (negated, members) (c :: text) rfl fun s _ => by
          rw [List.cons_append, plain (text ++ s) bracket, Option.map_some]

theorem beginClass_agrees (flags : Flags) (text : List Char) :
    Agrees Into (beginClass flags text) fun s => beginClass flags (text ++ s) := by
  have shape : ∀ text, beginClass flags text =
      (some (readNegation flags (flags.skip text))).bind fun p =>
        (some (readLeadingHyphens flags (p.2.length + 1) {} p.2)).bind fun q =>
          (beginMembers flags p.1 (p.2.head? == some '-') q.1 q.2).map
            fun r => ((r.1, r.2.1), r.2.2) := fun _ => rfl
  rw [shape]
  refine .congr _ ?_ fun s _ => shape (text ++ s)
  have negation : Agrees Beyond (some (readNegation flags (flags.skip text)))
      fun s => some (readNegation flags (flags.skip (text ++ s))) :=
    .skip (fun text => some (readNegation flags text))
      (fun _ text => some (readNegation flags text))
      (readNegation_agrees flags _) (.hidden false rfl fun _ _ => rfl)
  have exhausted : ∀ {negated startsWithHyphen : Bool} {members : Members} {text rest : List Char}
      {x : Bool × Members},
      ((beginMembers flags negated startsWithHyphen members text).map
        fun r => ((r.1, r.2.1), r.2.2)) = some (x, rest) -> rest <:+ text := by
    intro negated startsWithHyphen members text rest x reads
    rcases Option.map_eq_some_iff.mp reads with ⟨⟨_, _, _⟩, first, same⟩
    cases same
    exact beginMembers_suffix flags first
  refine negation.bind _ _ ?_ ?_ ?_
  · intro negated rest
    have sameStart : ∀ s, Closing s ->
        ((rest ++ s).head? == some '-') = (rest.head? == some '-') := by
      intro s closing
      rcases closing.exists_eq_cons with ⟨after, rfl⟩
      cases rest <;> rfl
    have hyphens := readLeadingHyphens_agrees flags (rest.length + 1)
      (fun s => (rest ++ s).length + 1) {} rest (Nat.lt_succ_self _)
      (fun s _ => by rw [List.length_append]; exact Nat.lt_succ_self _)
    refine .congr (fun s =>
      (some (readLeadingHyphens flags ((rest ++ s).length + 1) {} (rest ++ s))).bind fun q =>
        (beginMembers flags negated (rest.head? == some '-') q.1 q.2).map
          fun r => ((r.1, r.2.1), r.2.2)) ?_ fun s closing => by rw [sameStart s closing]
    refine hyphens.bind _ _ ?_ ?_ ?_
    · exact fun members rest => beginMembers_agrees flags _ _ members rest
    · exact fun members => .nothing fun x rest reads => List.suffix_nil.mp (exhausted reads)
    · intro s _ members rest short x rest' reads
      exact Nat.le_trans (exhausted reads).length_le (Nat.le_of_lt short)
  · intro negated
    simp only [readLeadingHyphens_nil]
    exact .none fun _ _ => rfl
  · intro s _ negated rest short x rest' reads
    exact Nat.le_trans ((exhausted reads).trans (readLeadingHyphens_suffix flags _ _ _)).length_le
      (Nat.le_of_lt short)

/-! ## Named classes -/

/-- The name of a class up to its colon, what follows, and whether it is negated. -/
private def readClassName (negated : Bool) (rest : List Char) :
    Option (CharSet × Bool × List Char) :=
  match rest.dropWhile (· != ':') with
  | ':' :: ']' :: after =>
    (CharSet.asciiClass? (rest.takeWhile (· != ':'))).map (·, negated, after)
  | _ => none

private def readSign : List Char -> Bool × List Char
  | '^' :: rest => (true, rest)
  | rest => (false, rest)

/-- A closing has neither a colon nor a bracket to end the name of a class with. -/
private theorem readClassName_append (negated : Bool) (rest : List Char) {s : List Char}
    (closing : Closing s) :
    readClassName negated (rest ++ s) =
      (readClassName negated rest).map fun p => (p.1, p.2.1, p.2.2 ++ s) := by
  cases begins : rest.dropWhile (· != ':') with
  | nil =>
      have nothing : (rest ++ s).dropWhile (· != ':') = [] := by
        rw [List.dropWhile_append, begins]
        cases closing <;> rfl
      simp only [readClassName, begins, nothing, Option.map_none]
  | cons c after =>
      have dropped : (rest ++ s).dropWhile (· != ':') = c :: (after ++ s) := by
        rw [List.dropWhile_append, begins]
        rfl
      have taken : (rest ++ s).takeWhile (· != ':') = rest.takeWhile (· != ':') := by
        rw [List.takeWhile_append, if_neg]
        intro all
        have whole := congrArg List.length
          (List.takeWhile_append_dropWhile (p := (· != ':')) (l := rest))
        rw [List.length_append, all, begins, List.length_cons] at whole
        omega
      simp only [readClassName, begins, dropped, taken]
      by_cases colon : c = ':'
      · subst colon
        cases after with
        | nil => cases closing <;> rfl
        | cons d after =>
            by_cases bracket : d = ']'
            · subst bracket
              simp [Option.map_map, Function.comp_def]
            · simp [bracket]
      · simp [colon]

private theorem readSign_append (rest : List Char) {s : List Char} (closing : Closing s) :
    readSign (rest ++ s) = ((readSign rest).1, (readSign rest).2 ++ s) := by
  cases rest with
  | nil => cases closing <;> rfl
  | cons c rest =>
      by_cases caret : c = '^'
      · subst caret
        rfl
      · simp [readSign, caret]

private theorem readAsciiClass_colon (rest : List Char) :
    readAsciiClass (':' :: rest) = readClassName (readSign rest).1 (readSign rest).2 := rfl

private theorem readAsciiClass_other {text : List Char} (noColon : text.head? ≠ some ':') :
    readAsciiClass text = none := by
  unfold readAsciiClass
  split
  · exact absurd rfl noColon
  · rfl

theorem readAsciiClass_append (text : List Char) {s : List Char} (closing : Closing s) :
    readAsciiClass (text ++ s) =
      (readAsciiClass text).map fun p => (p.1, p.2.1, p.2.2 ++ s) := by
  by_cases colon : text.head? = some ':'
  · rcases List.head?_eq_some_iff.mp colon with ⟨rest, rfl⟩
    rw [List.cons_append, readAsciiClass_colon, readAsciiClass_colon, readSign_append rest closing]
    exact readClassName_append _ _ closing
  · rw [readAsciiClass_other colon,
      readAsciiClass_other (head?_append_closing closing (by decide) colon)]
    rfl

theorem readAsciiClass_suffix {text rest : List Char} {named : CharSet} {negated : Bool}
    (reads : readAsciiClass text = some (named, negated, rest)) : rest <:+ text := by
  by_cases colon : text.head? = some ':'
  · rcases List.head?_eq_some_iff.mp colon with ⟨inner, rfl⟩
    rw [readAsciiClass_colon] at reads
    have sign : (readSign inner).2 <:+ inner := by
      unfold readSign
      split
      · exact List.suffix_cons _ _
      · exact List.suffix_rfl
    unfold readClassName at reads
    split at reads
    · next after dropped =>
        rcases Option.map_eq_some_iff.mp reads with ⟨_, -, same⟩
        cases same
        have inside : ':' :: ']' :: rest <:+ (readSign inner).2 :=
          dropped ▸ List.dropWhile_suffix (· != ':')
        exact ((List.suffix_cons _ _).trans (List.suffix_cons _ _)).trans
          (inside.trans (sign.trans (List.suffix_cons ':' inner)))
    · cases reads
  · rw [readAsciiClass_other colon] at reads
    cases reads

/-! ## Members and ranges -/

theorem readMember_suffix (flags : Flags) {text rest : List Char} {atom : Atom}
    (reads : readMember flags text = some (atom, rest)) :
    rest <:+ text ∧ rest.length < text.length := by
  unfold readMember at reads
  split at reads
  · cases reads
  · have escape := readEscape_suffix flags reads
    exact ⟨escape.1.trans (List.suffix_cons _ _), Nat.lt_succ_of_lt escape.2⟩
  · cases reads
    exact ⟨List.suffix_cons _ _, Nat.lt_succ_self _⟩

theorem readMember_of_no_slash (flags : Flags) {c : Char} (rest : List Char) (noSlash : c ≠ '\\') :
    readMember flags (c :: rest) = some (.char c false, rest) := by
  unfold readMember
  split
  · contradiction
  · next same => exact absurd (List.cons.inj same).1 noSlash
  · next same => cases same; rfl

theorem readMember_agrees (flags : Flags) (text : List Char) :
    Agrees (BeyondEscape flags) (readMember flags text) fun s => readMember flags (text ++ s) := by
  cases text with
  | nil => exact .failed rfl fun s _ x rest reads => Or.inl (readMember_suffix flags reads).2
  | cons c text =>
      by_cases slash : c = '\\'
      · subst slash
        exact readEscape_agrees flags text
      · rw [readMember_of_no_slash flags text slash]
        refine .kept (.char c false) text rfl fun s _ => ?_
        exact readMember_of_no_slash flags (text ++ s) slash

/-- Whether a hyphen stands for itself, by what comes behind it: at the end of a class
there is nothing that a range could go to. -/
def endsAtHyphen (flags : Flags) (rest : List Char) : Bool :=
  flags.peekBound rest == some ']' || flags.peekBound rest == some '-'

theorem peekBound_append (flags : Flags) (rest : List Char) {s : List Char}
    (closing : Closing s) :
    flags.peekBound (rest ++ s) = (flags.peekBound rest).or (some ')') := by
  have first : ∀ text : List Char, (text ++ s).head? = text.head?.or (some ')') := by
    intro text
    rcases closing.exists_eq_cons with ⟨after, rfl⟩
    cases text <;> rfl
  unfold Flags.peekBound
  split
  · rw [dropWhile_isBlank_append rest closing]
    cases rest.dropWhile Property.isBlank with
    | nil =>
        rcases closing.exists_eq_cons with ⟨after, rfl⟩
        rfl
    | cons c inner =>
        by_cases comment : c = '#'
        · subst comment
          simp only [List.cons_append, dropWhile_isBlank_append inner closing, first]
        · simp [comment]
  · exact first rest

theorem endsAtHyphen_append (flags : Flags) (rest : List Char) {s : List Char}
    (closing : Closing s) : endsAtHyphen flags (rest ++ s) = endsAtHyphen flags rest := by
  rw [endsAtHyphen, endsAtHyphen, peekBound_append flags rest closing]
  cases flags.peekBound rest <;> rfl

def rangeSet (flags : Flags) (first last : Atom) : Option CharSet :=
  match memberChar? flags first, memberChar? flags last with
  | some first, some last => if first ≤ last then some (.range first.toNat last.toNat) else none
  | _, _ => none

/-- A range or a single member, once its first member has been read and blanks have been
skipped. -/
def readRangeFrom (flags : Flags) (first : Atom) (text : List Char) :
    Option (CharSet × List Char) :=
  match text with
  | [] => none
  | '-' :: rest =>
    if endsAtHyphen flags rest then (memberSet? flags first).map (·, '-' :: rest)
    else
      (readMember flags (flags.skip rest)).bind fun p =>
        (rangeSet flags first p.1).map fun set => (set, p.2)
  | text => (memberSet? flags first).map (·, text)

theorem readRange_eq (flags : Flags) (text : List Char) :
    readRange flags text =
      (readMember flags text).bind fun p => readRangeFrom flags p.1 (flags.skip p.2) := by
  unfold readRange
  congr 1
  funext p
  rcases p with ⟨first, text⟩
  dsimp only
  generalize flags.skip text = text
  cases text with
  | nil => rfl
  | cons c rest =>
      by_cases hyphen : c = '-'
      · subst hyphen
        refine ite_congr rfl (fun _ => rfl) fun _ => ?_
        · congr 1
          funext q
          rcases q with ⟨last, after⟩
          simp only [rangeSet]
          cases memberChar? flags first with
          | none => rfl
          | some first =>
              cases memberChar? flags last with
              | none => rfl
              | some last =>
                  dsimp only
                  split <;> rfl
      · simp [readRangeFrom, hyphen]

theorem readRangeFrom_other (flags : Flags) (first : Atom) {c : Char} (rest : List Char)
    (noHyphen : c ≠ '-') :
    readRangeFrom flags first (c :: rest) = (memberSet? flags first).map (·, c :: rest) := by
  unfold readRangeFrom
  split
  · contradiction
  · next same => exact absurd (List.cons.inj same).1 noHyphen
  · rfl

theorem readRangeFrom_suffix (flags : Flags) {first : Atom} {text rest : List Char}
    {set : CharSet} (reads : readRangeFrom flags first text = some (set, rest)) :
    rest <:+ text := by
  unfold readRangeFrom at reads
  split at reads
  · cases reads
  · split at reads
    · rcases Option.map_eq_some_iff.mp reads with ⟨_, -, same⟩
      cases same
      exact List.suffix_rfl
    · rcases Option.bind_eq_some_iff.mp reads with ⟨⟨last, left⟩, member, second⟩
      rcases Option.map_eq_some_iff.mp second with ⟨_, -, same⟩
      cases same
      exact (readMember_suffix flags member).1.trans
        ((skip_suffix flags _).trans (List.suffix_cons _ _))
  · rcases Option.map_eq_some_iff.mp reads with ⟨_, -, same⟩
    cases same
    exact List.suffix_rfl

/-- A condition has no place in a class, neither alone nor at the end of a range. -/
theorem readRangeFrom_look (flags : Flags) (condition : Look) (text : List Char) :
    readRangeFrom flags (.look condition) text = none := by
  unfold readRangeFrom
  split
  · rfl
  · split
    · rfl
    · next member _ =>
        cases readMember flags (flags.skip member) with
        | none => rfl
        | some p => rfl
  · rfl

theorem readRangeFrom_agrees (flags : Flags) (first : Atom) (text : List Char) :
    Agrees Into (readRangeFrom flags first text)
      fun s => readRangeFrom flags first (text ++ s) := by
  have single : ∀ text : List Char, Agrees (@Into CharSet)
      ((memberSet? flags first).map (·, text))
      fun s => (memberSet? flags first).map (·, text ++ s) := by
    intro text
    cases memberSet? flags first with
    | none => exact .none fun _ _ => rfl
    | some set => exact .kept set text rfl fun _ _ => rfl
  cases text with
  | nil =>
      exact .failed rfl fun s _ x rest reads => (readRangeFrom_suffix flags reads).length_le
  | cons c text =>
      by_cases hyphen : c = '-'
      · subst hyphen
        refine .congr (fun s =>
          if endsAtHyphen flags text then (memberSet? flags first).map (·, '-' :: (text ++ s))
          else (readMember flags (flags.skip (text ++ s))).bind fun p =>
            (rangeSet flags first p.1).map fun set => (set, p.2)) ?_ ?_
        · simp only [readRangeFrom]
          split
          · exact single ('-' :: text)
          · have member : Agrees (BeyondEscape flags) (readMember flags (flags.skip text))
                fun s => readMember flags (flags.skip (text ++ s)) :=
              .skip (readMember flags) (fun _ => readMember flags) (readMember_agrees flags _)
                (.none fun _ _ => rfl)
            refine member.convert (rangeSet flags first) id ?_
            intro s _ last rest lost set isSet
            rcases lost with short | ⟨condition, inner, rfl, -, -⟩
            · exact Nat.le_of_lt short
            · cases memberChar? flags first <;> simp [rangeSet, memberChar?] at isSet
        · intro s closing
          simp only [List.cons_append, readRangeFrom, endsAtHyphen_append flags text closing]
      · rw [readRangeFrom_other flags first text hyphen]
        refine .congr _ (single (c :: text)) fun s _ => ?_
        rw [List.cons_append, readRangeFrom_other flags first (text ++ s) hyphen]

theorem readRange_suffix (flags : Flags) {text rest : List Char} {set : CharSet}
    (reads : readRange flags text = some (set, rest)) :
    rest <:+ text ∧ rest.length < text.length := by
  rw [readRange_eq] at reads
  rcases Option.bind_eq_some_iff.mp reads with ⟨⟨first, left⟩, member, range⟩
  have begun := readMember_suffix flags member
  have inside := (readRangeFrom_suffix flags range).trans (skip_suffix flags left)
  exact ⟨inside.trans begun.1, Nat.lt_of_le_of_lt inside.length_le begun.2⟩

theorem readRange_agrees (flags : Flags) (text : List Char) :
    Agrees Into (readRange flags text) fun s => readRange flags (text ++ s) := by
  rw [readRange_eq]
  refine .congr _ ?_ fun s _ => readRange_eq flags (text ++ s)
  refine (readMember_agrees flags text).bind _ _ ?_ ?_ ?_
  · intro first rest
    exact .skip (readRangeFrom flags first) (fun _ => readRangeFrom flags first)
      (readRangeFrom_agrees flags first _) (.none fun _ _ => rfl)
  · intro first
    simp only [skip_nil]
    exact .none fun _ _ => rfl
  · intro s _ first rest lost set rest' reads
    rcases lost with short | ⟨condition, inner, rfl, -, -⟩
    · have inside := (readRangeFrom_suffix flags reads).trans (skip_suffix flags rest)
      exact Nat.le_of_lt (Nat.lt_of_le_of_lt inside.length_le short)
    · rw [readRangeFrom_look] at reads
      cases reads

end SecureSockets.Regex
