import SecureSockets.Proofs.Regex.Closing
import SecureSockets.Regex.Escape

namespace SecureSockets.Regex

open Unicode

/-!
# Reading escapes in front of a closing

What a backslash introduces is read from the front of a text: something is always left
over, namely an end of the text, and with a closing behind the text the reading agrees
with the reading of the text alone.

One escape looks further ahead than it reads.  A word boundary may be followed by a name
in braces, and an opening brace at the end of a pattern is refused at once; in front of
a closing it is taken for the beginning of a repetition, which then fails.  So what is
lost by a failed escape can also be such a brace in front of the closing.
-/

/-! ## Hexadecimal numbers -/

theorem readHexDigits_suffix (flags : Flags) {count value code : Nat} {text rest : List Char}
    (reads : readHexDigits flags count value text = some (code, rest)) :
    rest <:+ text ∧ (0 < count -> rest.length < text.length) := by
  induction count generalizing value text with
  | zero =>
      simp only [readHexDigits, Option.some.injEq, Prod.mk.injEq] at reads
      exact ⟨reads.2 ▸ List.suffix_rfl, fun positive => absurd positive (Nat.lt_irrefl 0)⟩
  | succ count ih =>
      cases text with
      | nil => cases reads
      | cons c text =>
          simp only [readHexDigits] at reads
          split at reads
          · have next := (ih reads).1.trans (skip_suffix flags text)
            exact ⟨next.trans (List.suffix_cons c text), fun _ => Nat.lt_succ_of_le next.length_le⟩
          · cases reads

theorem readHexDigits_agrees (flags : Flags) (count value : Nat) (text : List Char) :
    Agrees Beyond (readHexDigits flags count value text)
      fun s => readHexDigits flags count value (text ++ s) := by
  induction count generalizing value text with
  | zero => exact .kept value text rfl fun _ _ => rfl
  | succ count ih =>
      cases text with
      | nil =>
          exact .failed rfl fun s _ x rest reads =>
            (readHexDigits_suffix flags reads).2 (Nat.succ_pos count)
      | cons c text =>
          simp only [readHexDigits, List.cons_append]
          cases hexValue? c with
          | none => exact .none fun _ _ => rfl
          | some digit =>
              refine .skip (readHexDigits flags count _) (fun _ => readHexDigits flags count _)
                (ih _ _) (.nothing fun _ _ reads => ?_)
              exact List.suffix_nil.mp (readHexDigits_suffix flags reads).1

@[simp] theorem readBracedHex_nil (flags : Flags) (isFirst : Bool) (fuel value : Nat) :
    readBracedHex flags isFirst fuel value [] = none := by
  cases fuel <;> rfl

theorem readBracedHex_suffix (flags : Flags) {isFirst : Bool} {fuel value code : Nat}
    {text rest : List Char}
    (reads : readBracedHex flags isFirst fuel value text = some (code, rest)) :
    rest <:+ text ∧ rest.length < text.length := by
  induction fuel generalizing isFirst value text with
  | zero => cases text <;> cases reads
  | succ fuel ih =>
      cases text with
      | nil => cases reads
      | cons c text =>
          have shorter : flags.skip text <:+ c :: text :=
            (skip_suffix flags text).trans (List.suffix_cons c text)
          have skipped := length_skip_le flags text
          simp only [readBracedHex] at reads
          split at reads
          · split at reads
            · cases reads
            · cases reads
              exact ⟨shorter, Nat.lt_succ_of_le skipped⟩
          · split at reads
            · have next := ih reads
              have bound := Nat.le_trans (Nat.le_of_lt next.2) skipped
              exact ⟨next.1.trans shorter, Nat.lt_succ_of_le bound⟩
            · cases reads

theorem readBracedHex_agrees (flags : Flags) (isFirst : Bool) (fuel : Nat)
    (fuel' : List Char -> Nat) (value : Nat) (text : List Char) (enough : text.length < fuel)
    (enough' : ∀ s, Closing s -> text.length + s.length < fuel' s) :
    Agrees Beyond (readBracedHex flags isFirst fuel value text)
      fun s => readBracedHex flags isFirst (fuel' s) value (text ++ s) := by
  induction fuel generalizing isFirst fuel' value text with
  | zero => exact absurd enough (Nat.not_lt_zero _)
  | succ fuel ih =>
      cases text with
      | nil => exact .failed rfl fun s _ x rest reads => (readBracedHex_suffix flags reads).2
      | cons c text =>
          have skipped := length_skip_le flags text
          refine .congr (fun s =>
            readBracedHex flags isFirst ((fuel' s - 1) + 1) value (c :: (text ++ s))) ?_ ?_
          · simp only [readBracedHex]
            split
            · split
              · exact .none fun _ _ => rfl
              · exact .skip_rest flags value text
            · cases hexValue? c with
              | none => exact .none fun _ _ => rfl
              | some digit =>
                  refine .skip (readBracedHex flags false fuel _)
                    (fun s => readBracedHex flags false (fuel' s - 1) _) (ih _ _ _ _ ?_ ?_) ?_
                  · exact Nat.lt_of_le_of_lt skipped (Nat.lt_of_succ_lt_succ enough)
                  · intro s closing
                    have := enough' s closing
                    rw [List.length_cons] at this
                    omega
                  · simp only [readBracedHex_nil]
                    exact .none fun _ _ => rfl
          · intro s closing
            have := enough' s closing
            rw [List.cons_append, Nat.sub_add_cancel (by omega)]

theorem readHex_of_brace (flags : Flags) (digits : Nat) {text rest : List Char}
    (brace : flags.skip text = '\x7b' :: rest) :
    readHex flags digits text =
      (readBracedHex flags true (rest.length + 1) 0 (flags.skip rest)).bind fun p =>
        (scalar? p.1).map fun c => (.char c false, p.2) := by
  simp only [readHex, brace]

theorem readHex_of_no_brace (flags : Flags) (digits : Nat) {text : List Char}
    (noBrace : (flags.skip text).head? ≠ some '\x7b') :
    readHex flags digits text =
      (readHexDigits flags digits 0 (flags.skip text)).bind fun p =>
        (scalar? p.1).map fun c => (.char c (digits == 2), p.2) := by
  simp only [readHex]
  split
  · next brace => exact absurd (congrArg List.head? brace) noBrace
  · rfl

theorem readHex_suffix (flags : Flags) {digits : Nat} {text rest : List Char} {atom : Atom}
    (reads : readHex flags digits text = some (atom, rest)) : rest <:+ text := by
  by_cases brace : (flags.skip text).head? = some '\x7b'
  · rcases List.head?_eq_some_iff.mp brace with ⟨inner, skipped⟩
    rw [readHex_of_brace flags digits skipped] at reads
    rcases Option.bind_eq_some_iff.mp reads with ⟨⟨code, left⟩, first, second⟩
    rcases Option.map_eq_some_iff.mp second with ⟨c, -, same⟩
    cases same
    have inside := skipped ▸ skip_suffix flags text
    exact (readBracedHex_suffix flags first).1.trans
      ((skip_suffix flags inner).trans ((List.suffix_cons _ inner).trans inside))
  · rw [readHex_of_no_brace flags digits brace] at reads
    rcases Option.bind_eq_some_iff.mp reads with ⟨⟨code, left⟩, first, second⟩
    rcases Option.map_eq_some_iff.mp second with ⟨c, -, same⟩
    cases same
    exact (readHexDigits_suffix flags first).1.trans (skip_suffix flags text)

theorem readHex_agrees (flags : Flags) (digits : Nat) (text : List Char) :
    Agrees Beyond (readHex flags digits text) fun s => readHex flags digits (text ++ s) := by
  by_cases brace : (flags.skip text).head? = some '\x7b'
  · rcases List.head?_eq_some_iff.mp brace with ⟨inner, skipped⟩
    rw [readHex_of_brace flags digits skipped]
    refine .congr _ ?_ fun s closing =>
      readHex_of_brace flags digits (skip_append_of_cons flags skipped closing)
    have number : Agrees Beyond
        (readBracedHex flags true (inner.length + 1) 0 (flags.skip inner))
        fun s =>
          readBracedHex flags true ((inner ++ s).length + 1) 0 (flags.skip (inner ++ s)) := by
      refine .skip (readBracedHex flags true (inner.length + 1) 0)
        (fun s => readBracedHex flags true ((inner ++ s).length + 1) 0) ?_ ?_
      · have bound := length_skip_le flags inner
        refine readBracedHex_agrees flags true _ _ 0 _ (Nat.lt_succ_of_le bound) ?_
        intro s _
        rw [List.length_append]
        omega
      · simp only [readBracedHex_nil]
        exact .none fun _ _ => rfl
    exact number.convert scalar? (Atom.char · false) fun _ _ _ _ short _ _ => short
  · rw [readHex_of_no_brace flags digits brace]
    refine .congr _ ?_ fun s closing => readHex_of_no_brace flags digits
      (head?_skip_append flags closing (by decide) brace)
    have number : Agrees Beyond (readHexDigits flags digits 0 (flags.skip text))
        fun s => readHexDigits flags digits 0 (flags.skip (text ++ s)) := by
      refine .skip (readHexDigits flags digits 0) (fun _ => readHexDigits flags digits 0)
        (readHexDigits_agrees flags digits 0 _) (.nothing fun _ _ reads => ?_)
      exact List.suffix_nil.mp (readHexDigits_suffix flags reads).1
    exact number.convert scalar? (Atom.char · (digits == 2)) fun _ _ _ _ short _ _ => short

/-! ## Properties by name -/

@[simp] theorem readBracedName_nil (flags : Flags) (fuel : Nat) (name : List Char) :
    readBracedName flags fuel name [] = none := by
  cases fuel <;> rfl

theorem readBracedName_suffix (flags : Flags) {fuel : Nat} {name result text rest : List Char}
    (reads : readBracedName flags fuel name text = some (result, rest)) :
    rest <:+ text ∧ rest.length < text.length := by
  induction fuel generalizing name text with
  | zero => cases text <;> cases reads
  | succ fuel ih =>
      cases text with
      | nil => cases reads
      | cons c text =>
          have skipped := length_skip_le flags text
          simp only [readBracedName] at reads
          split at reads
          · cases reads
            exact ⟨List.suffix_cons c _, Nat.lt_succ_self _⟩
          · have next := ih reads
            exact ⟨next.1.trans ((skip_suffix flags text).trans (List.suffix_cons c text)),
              Nat.lt_succ_of_le (Nat.le_trans (Nat.le_of_lt next.2) skipped)⟩

theorem readBracedName_agrees (flags : Flags) (fuel : Nat) (fuel' : List Char -> Nat)
    (name text : List Char) (enough : text.length < fuel)
    (enough' : ∀ s, Closing s -> text.length + s.length < fuel' s) :
    Agrees Beyond (readBracedName flags fuel name text)
      fun s => readBracedName flags (fuel' s) name (text ++ s) := by
  induction fuel generalizing fuel' name text with
  | zero => exact absurd enough (Nat.not_lt_zero _)
  | succ fuel ih =>
      cases text with
      | nil => exact .failed rfl fun s _ x rest reads => (readBracedName_suffix flags reads).2
      | cons c text =>
          refine .congr (fun s =>
            readBracedName flags ((fuel' s - 1) + 1) name (c :: (text ++ s))) ?_ ?_
          · simp only [readBracedName]
            split
            · exact .kept _ text rfl fun _ _ => rfl
            · refine .skip (readBracedName flags fuel _)
                (fun s => readBracedName flags (fuel' s - 1) _) (ih _ _ _ ?_ ?_) ?_
              · exact Nat.lt_of_le_of_lt (length_skip_le flags text) (Nat.lt_of_succ_lt_succ enough)
              · intro s closing
                have := enough' s closing
                have := length_skip_le flags text
                rw [List.length_cons] at *
                omega
              · simp only [readBracedName_nil]
                exact .none fun _ _ => rfl
          · intro s closing
            have := enough' s closing
            rw [List.cons_append, Nat.sub_add_cancel (by omega)]

/-- The property that stands at the front of a text: a letter, or a name in braces. -/
def readPropertyName (flags : Flags) : List Char -> Option (Property × List Char)
  | [] => none
  | '\x7b' :: rest =>
    (readBracedName flags (rest.length + 1) [] (flags.skip rest)).bind fun p =>
      (propertyOf p.1).map fun y => (y, p.2)
  | '\\' :: _ => none
  | c :: rest => (Property.ofName [c]).map fun y => (y, flags.skip rest)

theorem readProperty_eq (flags : Flags) (negated : Bool) (text : List Char) :
    readProperty flags negated text =
      (readPropertyName flags (flags.skip text)).bind fun p =>
        (if flags.unicode then flags.completeSet negated (.property p.1) else none).map
          fun set => (.set set, p.2) := by
  cases unicode : flags.unicode <;> simp only [readProperty, unicode] <;> rfl

theorem readPropertyName_letter (flags : Flags) {c : Char} (rest : List Char)
    (noBrace : c ≠ '\x7b') (noSlash : c ≠ '\\') :
    readPropertyName flags (c :: rest) =
      (Property.ofName [c]).map fun y => (y, flags.skip rest) := by
  unfold readPropertyName
  split
  · contradiction
  · next same => exact absurd (List.cons.inj same).1 noBrace
  · next same => exact absurd (List.cons.inj same).1 noSlash
  · next same => cases same; rfl

theorem readPropertyName_suffix (flags : Flags) {text rest : List Char} {property : Property}
    (reads : readPropertyName flags text = some (property, rest)) :
    rest <:+ text ∧ rest.length < text.length := by
  have after : ∀ {c : Char} {inner : List Char}, rest <:+ flags.skip inner ->
      rest <:+ c :: inner ∧ rest.length < (c :: inner).length := by
    intro c inner suffix
    have inside := suffix.trans (skip_suffix flags inner)
    exact ⟨inside.trans (List.suffix_cons c inner), Nat.lt_succ_of_le inside.length_le⟩
  unfold readPropertyName at reads
  split at reads
  · cases reads
  · rcases Option.bind_eq_some_iff.mp reads with ⟨⟨name, left⟩, first, second⟩
    rcases Option.map_eq_some_iff.mp second with ⟨_, -, same⟩
    cases same
    exact after (readBracedName_suffix flags first).1
  · cases reads
  · rcases Option.map_eq_some_iff.mp reads with ⟨_, -, same⟩
    cases same
    exact after List.suffix_rfl

theorem readPropertyName_agrees (flags : Flags) (text : List Char) :
    Agrees Beyond (readPropertyName flags text) fun s => readPropertyName flags (text ++ s) := by
  cases text with
  | nil => exact .failed rfl fun s _ x rest reads => (readPropertyName_suffix flags reads).2
  | cons c text =>
      by_cases brace : c = '\x7b'
      · subst brace
        have name : Agrees Beyond
            (readBracedName flags (text.length + 1) [] (flags.skip text))
            fun s => readBracedName flags ((text ++ s).length + 1) [] (flags.skip (text ++ s)) := by
          refine .skip (readBracedName flags (text.length + 1) [])
            (fun s => readBracedName flags ((text ++ s).length + 1) []) ?_ ?_
          · have bound := length_skip_le flags text
            refine readBracedName_agrees flags _ _ [] _ (Nat.lt_succ_of_le bound) ?_
            intro s _
            rw [List.length_append]
            omega
          · simp only [readBracedName_nil]
            exact .none fun _ _ => rfl
        exact name.convert propertyOf id fun _ _ _ _ short _ _ => short
      · by_cases slash : c = '\\'
        · subst slash
          exact .none fun _ _ => rfl
        · rw [readPropertyName_letter flags text brace slash]
          refine .congr _ ?_ fun s _ => readPropertyName_letter flags (text ++ s) brace slash
          cases Property.ofName [c] with
          | none => exact .none fun _ _ => rfl
          | some property => exact .skip_rest flags property text

theorem readProperty_suffix (flags : Flags) {negated : Bool} {text rest : List Char} {atom : Atom}
    (reads : readProperty flags negated text = some (atom, rest)) : rest <:+ text := by
  rw [readProperty_eq] at reads
  rcases Option.bind_eq_some_iff.mp reads with ⟨⟨property, left⟩, first, second⟩
  rcases Option.map_eq_some_iff.mp second with ⟨_, -, same⟩
  cases same
  exact (readPropertyName_suffix flags first).1.trans (skip_suffix flags text)

theorem readProperty_agrees (flags : Flags) (negated : Bool) (text : List Char) :
    Agrees Beyond (readProperty flags negated text)
      fun s => readProperty flags negated (text ++ s) := by
  rw [readProperty_eq]
  refine .congr _ ?_ fun s _ => readProperty_eq flags negated (text ++ s)
  have name : Agrees Beyond (readPropertyName flags (flags.skip text))
      fun s => readPropertyName flags (flags.skip (text ++ s)) :=
    .skip (readPropertyName flags) (fun _ => readPropertyName flags)
      (readPropertyName_agrees flags _) (.none fun _ _ => rfl)
  exact name.convert
    (fun property => if flags.unicode then flags.completeSet negated (.property property) else none)
    Atom.set fun _ _ _ _ short _ _ => short

/-! ## Word boundaries -/

theorem readBoundaryName_suffix (flags : Flags) (fuel : Nat) (name text : List Char) :
    (readBoundaryName flags fuel name text).2 <:+ text := by
  induction fuel generalizing name text with
  | zero => cases text <;> exact List.suffix_rfl
  | succ fuel ih =>
      cases text with
      | nil => exact List.suffix_rfl
      | cons c text =>
          simp only [readBoundaryName]
          split
          · exact (ih _ _).trans ((skip_suffix flags text).trans (List.suffix_cons c text))
          · exact List.suffix_rfl

theorem readBoundaryName_nil (flags : Flags) (fuel : Nat) (name : List Char) :
    readBoundaryName flags fuel name [] = (name.reverse, []) := by
  cases fuel <;> rfl

/-- The letters of a name end in front of a closing. -/
theorem readBoundaryName_closing (flags : Flags) (fuel : Nat) (name : List Char) {s : List Char}
    (closing : Closing s) : readBoundaryName flags fuel name s = (name.reverse, s) := by
  cases fuel with
  | zero => cases closing <;> rfl
  | succ fuel => cases closing <;> rfl

theorem readBoundaryName_agrees (flags : Flags) (fuel : Nat) (fuel' : List Char -> Nat)
    (name text : List Char) (enough : text.length < fuel)
    (enough' : ∀ s, Closing s -> text.length + s.length < fuel' s) :
    Agrees Beyond (some (readBoundaryName flags fuel name text))
      fun s => some (readBoundaryName flags (fuel' s) name (text ++ s)) := by
  induction fuel generalizing fuel' name text with
  | zero => exact absurd enough (Nat.not_lt_zero _)
  | succ fuel ih =>
      cases text with
      | nil =>
          rw [readBoundaryName_nil]
          refine .kept _ [] rfl fun s closing => ?_
          rw [List.nil_append, readBoundaryName_closing flags _ name closing]
      | cons c text =>
          refine .congr (fun s =>
            some (readBoundaryName flags ((fuel' s - 1) + 1) name (c :: (text ++ s)))) ?_ ?_
          · simp only [readBoundaryName]
            split
            · refine .skip (fun text => some (readBoundaryName flags fuel _ text))
                (fun s text => some (readBoundaryName flags (fuel' s - 1) _ text))
                (ih _ _ _ ?_ ?_) ?_
              · exact Nat.lt_of_le_of_lt (length_skip_le flags text) (Nat.lt_of_succ_lt_succ enough)
              · intro s closing
                have := enough' s closing
                have := length_skip_le flags text
                rw [List.length_cons] at *
                omega
              · simp only [readBoundaryName_nil]
                exact .hidden _ rfl fun _ _ => rfl
            · exact .kept _ (c :: text) rfl fun _ _ => rfl
          · intro s closing
            have := enough' s closing
            rw [List.cons_append, Nat.sub_add_cancel (by omega)]

/-- What is known of an escape that succeeds with a closing only: it has read into the
closing, or it is a word boundary in front of a brace that the closing follows.  The
second case leaves the whole closing over, and fails with the next part. -/
def BeyondEscape (flags : Flags) (s : List Char) (atom : Atom) (rest : List Char) : Prop :=
  rest.length < s.length ∨
    ∃ condition inner, atom = .look condition ∧ rest = '\x7b' :: inner ∧ flags.skip inner = s

def namedBoundary (ascii : Bool) (name : List Char) : Option Look :=
  match String.ofList name with
  | "start" => some (.wordStart ascii)
  | "end" => some (.wordEnd ascii)
  | "start-half" => some (.wordStartHalf ascii)
  | "end-half" => some (.wordEndHalf ascii)
  | _ => none

/-- The word boundary whose name has been read, if a closing brace follows. -/
def closedBoundary (ascii : Bool) (name : List Char) : List Char -> Option (Atom × List Char)
  | '\x7d' :: after => (namedBoundary ascii name).map fun condition => (.look condition, after)
  | _ => none

theorem readBoundary_of_no_brace (flags : Flags) {text : List Char}
    (noBrace : text.head? ≠ some '\x7b') :
    readBoundary flags text = some (.look (.wordBoundary !flags.unicode), text) := by
  unfold readBoundary
  split
  · exact absurd rfl noBrace
  · rfl

theorem readBoundary_of_empty (flags : Flags) {rest : List Char} (empty : flags.skip rest = []) :
    readBoundary flags ('\x7b' :: rest) = none := by
  simp only [readBoundary, empty]

theorem readBoundary_of_name (flags : Flags) {c : Char} {rest inner : List Char}
    (begins : flags.skip rest = c :: inner) (letter : (c.isAlpha || c == '-') = true) :
    readBoundary flags ('\x7b' :: rest) =
      closedBoundary (!flags.unicode)
        (readBoundaryName flags (inner.length + 2) [] (c :: inner)).1
        (readBoundaryName flags (inner.length + 2) [] (c :: inner)).2 := by
  simp only [readBoundary, begins, letter, if_true]
  generalize readBoundaryName flags (inner.length + 2) [] (c :: inner) = read
  rcases read with ⟨name, after⟩
  unfold closedBoundary
  split
  · next same =>
      cases same
      simp only [namedBoundary]
      generalize String.ofList name = word
      split <;> simp_all
  · next other =>
      split
      · next closes => exact absurd (congrArg (Prod.mk name) closes) (other name _)
      · rfl

theorem readBoundary_of_other (flags : Flags) {c : Char} {rest inner : List Char}
    (begins : flags.skip rest = c :: inner) (noLetter : (c.isAlpha || c == '-') = false) :
    readBoundary flags ('\x7b' :: rest) =
      some (.look (.wordBoundary !flags.unicode), '\x7b' :: rest) := by
  simp only [readBoundary, begins, noLetter, Bool.false_eq_true, if_false]

theorem closedBoundary_suffix {ascii : Bool} {name text rest : List Char} {atom : Atom}
    (reads : closedBoundary ascii name text = some (atom, rest)) : rest <:+ text := by
  unfold closedBoundary at reads
  split at reads
  · rcases Option.map_eq_some_iff.mp reads with ⟨_, -, same⟩
    cases same
    exact List.suffix_cons _ _
  · cases reads

theorem closedBoundary_append (ascii : Bool) (name text : List Char) :
    Agrees Beyond (closedBoundary ascii name text)
      fun s => closedBoundary ascii name (text ++ s) := by
  cases text with
  | nil =>
      refine .none fun s closing => ?_
      rcases closing.exists_eq_cons with ⟨rest, rfl⟩
      rfl
  | cons c text =>
      by_cases brace : c = '\x7d'
      · subst brace
        cases named : namedBoundary ascii name with
        | none =>
            have refused : ∀ rest, closedBoundary ascii name ('\x7d' :: rest) = none := by
              intro rest
              simp only [closedBoundary, named, Option.map_none]
            rw [refused]
            exact .none fun s _ => refused (text ++ s)
        | some condition =>
            exact .kept (.look condition) text (by simp [closedBoundary, named])
              fun s _ => by simp [closedBoundary, named]
      · have refused : ∀ rest, closedBoundary ascii name (c :: rest) = none := by
          intro rest
          unfold closedBoundary
          split
          · next same => exact absurd (List.cons.inj same).1 brace
          · rfl
        rw [refused]
        exact .none fun s _ => refused (text ++ s)

theorem readBoundary_suffix (flags : Flags) {text rest : List Char} {atom : Atom}
    (reads : readBoundary flags text = some (atom, rest)) : rest <:+ text := by
  by_cases brace : text.head? = some '\x7b'
  · rcases List.head?_eq_some_iff.mp brace with ⟨inside, rfl⟩
    cases begins : flags.skip inside with
    | nil =>
        rw [readBoundary_of_empty flags begins] at reads
        cases reads
    | cons c inner =>
        cases letter : c.isAlpha || c == '-' with
        | true =>
            rw [readBoundary_of_name flags begins letter] at reads
            have named := (closedBoundary_suffix reads).trans
              (readBoundaryName_suffix flags (inner.length + 2) [] (c :: inner))
            rw [← begins] at named
            exact named.trans ((skip_suffix flags inside).trans (List.suffix_cons _ inside))
        | false =>
            rw [readBoundary_of_other flags begins letter] at reads
            cases reads
            exact List.suffix_rfl
  · rw [readBoundary_of_no_brace flags brace] at reads
    cases reads
    exact List.suffix_rfl

theorem readBoundary_agrees (flags : Flags) (text : List Char) :
    Agrees (BeyondEscape flags) (readBoundary flags text)
      fun s => readBoundary flags (text ++ s) := by
  by_cases brace : text.head? = some '\x7b'
  · rcases List.head?_eq_some_iff.mp brace with ⟨inside, rfl⟩
    rcases skip_append flags inside with same | ⟨empty, swallowed⟩
    · cases begins : flags.skip inside with
      | nil =>
          refine .failed (readBoundary_of_empty flags begins) ?_
          intro s closing atom rest reads
          rcases closing.exists_eq_cons with ⟨after, rfl⟩
          have next : flags.skip (inside ++ ')' :: after) = ')' :: after := by
            rw [same _ closing, begins, List.nil_append]
          rw [List.cons_append, readBoundary_of_other flags next rfl] at reads
          cases reads
          exact Or.inr ⟨_, _, rfl, rfl, next⟩
      | cons c inner =>
          have next : ∀ s, Closing s -> flags.skip (inside ++ s) = c :: (inner ++ s) :=
            fun s closing => by rw [same s closing, begins, List.cons_append]
          cases letter : c.isAlpha || c == '-' with
          | true =>
              rw [readBoundary_of_name flags begins letter]
              refine .congr _ ?_ fun s closing =>
                readBoundary_of_name flags (next s closing) letter
              have name := readBoundaryName_agrees flags (inner.length + 2)
                (fun s => (inner ++ s).length + 2) [] (c :: inner)
                (Nat.lt_succ_self _) (fun s _ => by
                  simp only [List.length_cons, List.length_append]
                  omega)
              refine name.bind (fun p => closedBoundary (!flags.unicode) p.1 p.2)
                (fun _ p => closedBoundary (!flags.unicode) p.1 p.2) ?_ ?_ ?_
              · intro word rest
                exact (closedBoundary_append _ _ _).mono fun _ _ _ _ short => Or.inl short
              · intro word
                exact .none fun _ _ => rfl
              · intro s _ word rest short atom rest' reads
                exact Or.inl (Nat.lt_of_le_of_lt (closedBoundary_suffix reads).length_le short)
          | false =>
              refine .kept _ _ (readBoundary_of_other flags begins letter) fun s closing => ?_
              exact readBoundary_of_other flags (next s closing) letter
    · rw [readBoundary_of_empty flags empty]
      exact .none fun s closing => readBoundary_of_empty flags (swallowed s closing)
  · refine .kept _ _ (readBoundary_of_no_brace flags brace) fun s closing => ?_
    exact readBoundary_of_no_brace flags (head?_append_closing closing (by decide) brace)

/-! ## Escapes -/

theorem readEscape_suffix (flags : Flags) {text rest : List Char} {atom : Atom}
    (reads : readEscape flags text = some (atom, rest)) :
    rest <:+ text ∧ rest.length < text.length := by
  cases text with
  | nil => cases reads
  | cons c text =>
      have inside : rest <:+ text := by
        have kept : ∀ {found : Option Atom}, found.map (·, text) = some (atom, rest) ->
            rest <:+ text := by
          intro found eq
          rcases Option.map_eq_some_iff.mp eq with ⟨_, -, same⟩
          cases same
          exact List.suffix_rfl
        unfold readEscape at reads
        dsimp only at reads
        split at reads
        iterate 3 · exact readHex_suffix flags reads
        iterate 2 · exact readProperty_suffix flags reads
        iterate 6 · exact kept reads
        iterate 8 · cases reads; exact List.suffix_rfl
        · exact readBoundary_suffix flags reads
        iterate 3 · cases reads; exact List.suffix_rfl
        · split at reads
          · cases reads; exact List.suffix_rfl
          · cases reads
      exact ⟨inside.trans (List.suffix_cons c text), Nat.lt_succ_of_le inside.length_le⟩

theorem readEscape_agrees (flags : Flags) (text : List Char) :
    Agrees (BeyondEscape flags) (readEscape flags text) fun s => readEscape flags (text ++ s) := by
  cases text with
  | nil => exact .failed rfl fun s _ x rest reads => Or.inl (readEscape_suffix flags reads).2
  | cons c text =>
      have short : ∀ {alone : Option (Atom × List Char)} {followed},
          Agrees Beyond alone followed -> Agrees (BeyondEscape flags) alone followed :=
        fun agrees => agrees.mono fun _ _ _ _ short => Or.inl short
      have kept : ∀ found : Option Atom, Agrees (BeyondEscape flags)
          (found.map (·, text)) fun s => found.map (·, text ++ s) := by
        intro found
        cases found with
        | none => exact .none fun _ _ => rfl
        | some atom => exact .kept atom text rfl fun _ _ => rfl
      unfold readEscape
      dsimp only [List.cons_append]
      split
      iterate 3 · exact short (readHex_agrees flags _ text)
      iterate 2 · exact short (readProperty_agrees flags _ text)
      iterate 6 · exact kept _
      iterate 8 · exact kept (some _)
      · exact readBoundary_agrees flags text
      iterate 3 · exact kept (some _)
      · refine .congr (fun s =>
          if decide (c.toNat < 128) && !c.isAlphanum then some (.char c false, text ++ s)
          else none) ?_ fun s _ => ?_
        · split
          · exact kept (some _)
          · exact kept none
        · split <;> simp_all

end SecureSockets.Regex
