import SecureSockets.Proofs.Sni.Grammar
import SecureSockets.Proofs.Sni.Identity

namespace SecureSockets.Sni

open Text

/-!
# Names and their payloads

A host name of a text stands on the wire as its ASCII form.  The ASCII form is well formed,
and a well-formed text is what a conversion makes of it, so whoever reads the payload gets
the same host name again: the constructor for names received from a peer, a matcher that is
given the payload as a raw name, and, since converted labels keep the rules for labels as
they are written, even the constructor for names typed by a user.
-/

/-! ## Well-formed texts -/

section WellFormed

variable {codec : LabelCodec} {ascii : List Char} {labels : List (List Char)}

theorem isSeparator_of_ascii {c : Char} (ascii : c.toNat < 128) (notDot : c ≠ '.') :
    isSeparator c = false := by
  have beyond : ∀ d ∈ ['\u3002', '\uFF0E', '\uFF61'], ¬d.toNat < 128 :=
    List.all_iff_forall_prop.mp (by decide)
  have other : ∀ d ∈ ['\u3002', '\uFF0E', '\uFF61'], c ≠ d := fun d listed same =>
    beyond d listed (same ▸ ascii)
  simp [isSeparator, notDot, other]

theorem IsLabel.free {label : List Char} (proper : IsLabel label) :
    ∀ c ∈ label, isSeparator c = false := by
  intro c member
  have ascii : c.toNat < 128 := of_decide_eq_true (List.all_eq_true.mp proper.ascii c member)
  exact isSeparator_of_ascii ascii fun dot => proper.dotFree (dot ▸ member)

/-- Proper labels are the labels of the text that they are joined to. -/
theorem labelsOf_joinLabels (some : labels ≠ []) (proper : ∀ label ∈ labels, IsLabel label) :
    labelsOf (joinLabels labels) = labels :=
  splitAtEach_joinLabels_of_free (by decide) some fun label member => (proper label member).free

/-- A well-formed text is its own ASCII form. -/
theorem toAscii_of_wellFormed (wellFormed : WellFormed ascii) :
    toAscii codec .lenient ascii = .ok ascii := by
  rcases wellFormed with ⟨labels, some, proper, rfl⟩
  have converts : List.Forall₂ (Converts codec .lenient (joinLabels labels)) labels labels := by
    refine List.forall₂_same.mpr fun label member => ⟨(proper label member).filled, ?_⟩
    exact convertLabel_eq_ok_iff.mpr
      ⟨(proper label member).short, Or.inl ⟨(proper label member).ascii, rfl, rfl⟩⟩
  rw [toAscii, labelsOf_joinLabels some proper, convertLabels_of_converts converts]
  rfl

end WellFormed

/-! ## Payloads -/

section Payloads

variable {codec : LabelCodec} {host : HostName} {bytes : List UInt8} {name : List Char}

theorem ofBytes_eq_ok_iff :
    HostName.ofBytes codec bytes = .ok host ↔
      ∃ name ascii, Utf8.decode bytes = .ok name ∧ toAscii codec .lenient name = .ok ascii ∧
        HostName.ofAscii ascii bytes = .ok host := by
  unfold HostName.ofBytes
  cases Utf8.decode bytes with
  | error fault => simp
  | ok name =>
      cases converted : toAscii codec .lenient name <;> simp [converted, Except.bind]

/-- The payload of a host name of a text is read as that host name. -/
theorem ofBytes_encoded (regular : codec.Regular) (made : HostName.ofText codec name = .ok host) :
    HostName.ofBytes codec host.encoded = .ok host := by
  rcases (ofText_eq_ok_iff regular).mp made with ⟨forms, accepts, rfl⟩
  have wellFormed := wellFormed_of_accepts regular accepts
  exact ofBytes_eq_ok_iff.mpr ⟨_, _, Utf8.decode_encode _, toAscii_of_wellFormed wellFormed,
    wellFormed.ofAscii _⟩

end Payloads

/-! ## Both constructors -/

/-- What is relied on to make the two constructors agree: being lenient changes nothing
about a label that passes the strict rules. -/
structure LabelCodec.Coherent (codec : LabelCodec) : Prop where
  lenient_of_strict :
    ∀ label form, codec.strict label = some form -> codec.lenient label = some form
  plain : ∀ label form, codec.strict label = some form -> Idna.IsPlainLabel form

theorem LabelCodec.international_coherent : LabelCodec.international.Coherent where
  lenient_of_strict := fun _ _ converted => Idna.toAscii_none_of_full converted
  plain := fun _ _ converted => Idna.isPlainLabel_of_toAscii_full converted

theorem isAscii_of_plain {label : List Char} (plain : Idna.IsPlainLabel label) :
    Idna.isAscii label = true := by
  refine List.all_eq_true.mpr fun c member => decide_eq_true ?_
  exact Idna.IsPlain.ascii (plain.letters c member)

theorem LabelCodec.Coherent.regular {codec : LabelCodec} (coherent : codec.Coherent) :
    codec.Regular where
  filled := fun label form converts => (coherent.plain label form converts).filled
  isAscii := fun label form converts => isAscii_of_plain (coherent.plain label form converts)
  dotFree := fun label form converts dot =>
    absurd ((coherent.plain label form converts).letters '.' dot) (by decide)

section Constructors

variable {codec : LabelCodec} {name label form : List Char} {host : HostName}

theorem Accepts.lenient (coherent : codec.Coherent) (accepts : Accepts codec label form)
    (name : List Char) : Converts codec .lenient name label form := by
  have strict : Converts codec .strict name label form := converts_iff_accepts.mpr accepts
  refine ⟨strict.1, convertLabel_eq_ok_iff.mpr ?_⟩
  cases accepts with
  | asWritten ascii plain short => exact ⟨short, Or.inl ⟨ascii, rfl, rfl⟩⟩
  | converted notAscii converts short =>
      exact ⟨short, Or.inr ⟨notAscii, coherent.lenient_of_strict label form converts⟩⟩

/-- What a label becomes is accepted as it is. -/
theorem Accepts.again (coherent : codec.Coherent) (accepts : Accepts codec label form) :
    Accepts codec form form := by
  cases accepts with
  | asWritten ascii plain short => exact .asWritten ascii plain short
  | converted notAscii converts short =>
      have plain := coherent.plain label form converts
      exact .asWritten (isAscii_of_plain plain) plain short

/-- The bytes of a text that is a host name are that host name. -/
theorem ofBytes_encode (coherent : codec.Coherent) (made : HostName.ofText codec name = .ok host) :
    HostName.ofBytes codec (Utf8.encode name) = .ok ⟨host.ascii, Utf8.encode name⟩ := by
  rcases (ofText_eq_ok_iff coherent.regular).mp made with ⟨forms, accepts, rfl⟩
  have converts : List.Forall₂ (Converts codec .lenient name) (labelsOf name) forms :=
    accepts.imp fun _ _ accepts => accepts.lenient coherent name
  have converted : toAscii codec .lenient name = .ok (joinLabels forms) := by
    rw [toAscii, convertLabels_of_converts converts]
    rfl
  have wellFormed := wellFormed_of_accepts coherent.regular accepts
  exact ofBytes_eq_ok_iff.mpr ⟨name, _, Utf8.decode_encode name, converted, wellFormed.ofAscii _⟩

/-- The ASCII form of a text that is a host name is that host name. -/
theorem ofText_ascii (coherent : codec.Coherent) (made : HostName.ofText codec name = .ok host) :
    HostName.ofText codec host.ascii = .ok host := by
  rcases (ofText_eq_ok_iff coherent.regular).mp made with ⟨forms, accepts, rfl⟩
  have again : ∀ form ∈ forms, Accepts codec form form := by
    intro form member
    rcases exists_mem_of_forall₂ accepts member with ⟨label, -, becomes⟩
    exact becomes.again coherent
  have labels : labelsOf (joinLabels forms) = forms :=
    labelsOf_joinLabels (converted_ne_nil accepts) fun form member =>
      (again form member).isLabel coherent.regular
  refine (ofText_eq_ok_iff coherent.regular).mpr ⟨forms, ?_, rfl⟩
  rw [labels]
  exact List.forall₂_same.mpr again

end Constructors

/-- A text that is a host name is the same host name when it is received as bytes; its
payload is read as that host name with that payload; and its ASCII form, taken as a text, is
the host name itself. -/
theorem HostName.constructors_agree {codec : LabelCodec} (coherent : codec.Coherent)
    {name : List Char} {host : HostName} (made : ofText codec name = .ok host) :
    (∃ received, ofBytes codec (Utf8.encode name) = .ok received ∧ (received == host) = true ∧
        received.ascii = host.ascii) ∧
      ofBytes codec host.encoded = .ok host ∧ ofText codec host.ascii = .ok host :=
  ⟨⟨_, ofBytes_encode coherent made, (beq_iff_key _ _).mpr rfl, rfl⟩,
    ofBytes_encoded coherent.regular made, ofText_ascii coherent made⟩

theorem encode_full_width :
    Utf8.encode ['\uFF41', '\u3002', 'B'] = [239, 189, 129, 227, 128, 130, 66] := by
  decide

/-- A full-width letter, an ideographic full stop and a capital letter. -/
theorem constructors_agree_full_width :
    LabelCodec.international.Coherent ∧
      HostName.ofText .international ['\uFF41', '\u3002', 'B'] =
        .ok ⟨['a', '.', 'B'], [97, 46, 66]⟩ ∧
      (∃ received,
        HostName.ofBytes .international [239, 189, 129, 227, 128, 130, 66] = .ok received ∧
          (received == ⟨['a', '.', 'B'], [97, 46, 66]⟩) = true ∧
          received.ascii = ['a', '.', 'B']) ∧
      HostName.ofBytes .international [97, 46, 66] = .ok ⟨['a', '.', 'B'], [97, 46, 66]⟩ ∧
      HostName.ofText .international ['a', '.', 'B'] = .ok ⟨['a', '.', 'B'], [97, 46, 66]⟩ := by
  have coherent := LabelCodec.international_coherent
  rw [← encode_full_width]
  exact ⟨coherent, ofText_full_width, HostName.constructors_agree coherent ofText_full_width⟩

/-! ## Matchers -/

section Matchers

variable {codec : LabelCodec} {host : HostName} {bytes : List UInt8}

/-- A raw name has the ASCII form of the host name with its payload. -/
theorem asciiForm?_raw (made : HostName.ofBytes codec bytes = .ok host) (nameType : UInt8) :
    HostPattern.asciiForm? codec (.raw ⟨nameType, bytes⟩) = some host.ascii := by
  rcases ofBytes_eq_ok_iff.mp made with ⟨name, ascii, decoded, converted, accepted⟩
  rcases ofAscii_eq_ok_iff.mp accepted with ⟨-, -, rfl⟩
  rw [HostPattern.asciiForm?, Utf8.decodeLossy_of_decode decoded, converted]
  rfl

theorem asciiForm?_host (codec : LabelCodec) (host : HostName) :
    HostPattern.asciiForm? codec (.host host) = some host.ascii :=
  rfl

theorem test_eq_of_asciiForm {pattern : HostPattern} {left right : ServerName} {ascii : List Char}
    (ofLeft : HostPattern.asciiForm? codec left = some ascii)
    (ofRight : HostPattern.asciiForm? codec right = some ascii) :
    pattern.test codec left = pattern.test codec right := by
  simp only [HostPattern.test, ofLeft, ofRight]

end Matchers

/-- The matcher of a pattern does not tell a raw name from the host name with its payload,
whether that was received or made from a text. -/
theorem Matcher.test_raw_eq_test_host (compiler : Regex.Compiler) {codec : LabelCodec}
    (regular : codec.Regular) (identity : Nat) {pattern : List Char} {matcher : Matcher}
    (made : Matcher.ofPattern compiler codec identity pattern = .ok matcher) (nameType : UInt8) :
    (∀ bytes host, HostName.ofBytes codec bytes = .ok host ->
        matcher.test (.raw ⟨nameType, bytes⟩) = matcher.test (.host host)) ∧
      ∀ name host, HostName.ofText codec name = .ok host ->
        matcher.test (.raw ⟨nameType, host.encoded⟩) = matcher.test (.host host) := by
  have received : ∀ bytes host, HostName.ofBytes codec bytes = .ok host ->
      matcher.test (.raw ⟨nameType, bytes⟩) = matcher.test (.host host) := by
    intro bytes host read
    unfold ofPattern at made
    split at made
    · cases made
      exact test_eq_of_asciiForm (asciiForm?_raw read nameType) (asciiForm?_host codec host)
    · cases made
  exact ⟨received, fun name host typed => received _ host (ofBytes_encoded regular typed)⟩

/-- The bytes of a name with a full-width letter and an ideographic full stop, and the payload
of the host name that it is. -/
theorem test_raw_full_width :
    ∃ matcher, LabelCodec.international.Regular ∧
      Matcher.ofPattern .estimating .international 0 "a.b".toList = .ok matcher ∧
      HostName.ofBytes .international [239, 189, 129, 227, 128, 130, 66] =
          .ok ⟨['a', '.', 'B'], [239, 189, 129, 227, 128, 130, 66]⟩ ∧
      matcher.test (.raw ⟨7, [239, 189, 129, 227, 128, 130, 66]⟩) =
          matcher.test (.host ⟨['a', '.', 'B'], [239, 189, 129, 227, 128, 130, 66]⟩) ∧
      HostName.ofText .international ['\uFF41', '\u3002', 'B'] =
          .ok ⟨['a', '.', 'B'], [97, 46, 66]⟩ ∧
      matcher.test (.raw ⟨7, [97, 46, 66]⟩) =
          matcher.test (.host ⟨['a', '.', 'B'], [97, 46, 66]⟩) := by
  obtain ⟨matcher, made⟩ : ∃ matcher,
      Matcher.ofPattern .estimating .international 0 "a.b".toList = .ok matcher := ⟨_, rfl⟩
  have coherent := LabelCodec.international_coherent
  have received : HostName.ofBytes .international [239, 189, 129, 227, 128, 130, 66] =
      .ok ⟨['a', '.', 'B'], [239, 189, 129, 227, 128, 130, 66]⟩ :=
    encode_full_width ▸ ofBytes_encode coherent ofText_full_width
  have alike := Matcher.test_raw_eq_test_host .estimating coherent.regular 0 made 7
  exact ⟨matcher, coherent.regular, made, received, alike.1 _ _ received, ofText_full_width,
    alike.2 _ _ ofText_full_width⟩

end SecureSockets.Sni
