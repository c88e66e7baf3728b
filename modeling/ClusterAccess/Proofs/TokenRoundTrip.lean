/-
  ClusterAccess.Proofs.TokenRoundTrip

  Tokens are read back as they were written. A token is a document whose fields
  hold texts, and the reader of documents gives back every such document, whatever
  characters stand in its texts.
-/
import ClusterAccess.PageToken
import ClusterAccess.Proofs.Octets

namespace ClusterAccess
namespace Json

open Text (Symbol)

/-! ## Characters -/

/-- The characters that have a mark of their own behind a backslash. -/
def marked : List Char := ['"', '\\', '\x08', '\t', '\n', '\x0c', '\r']

/-- A character is written with a mark behind a backslash, by number behind one, or as itself. -/
theorem escapeChar_cases (c : Char) :
    (∃ mark, escapeChar c = ['\\', mark] ∧ mark ≠ 'u' ∧ escaped? mark = some c) ∨
      (c.toNat < 0x20 ∧ escapeChar c = '\\' :: 'u' :: Text.hex 4 c.toNat) ∨
        (escapeChar c = [c] ∧ c ≠ '"' ∧ c ≠ '\\' ∧ 0x20 ≤ c.toNat) := by
  by_cases hmarked : c ∈ marked
  · refine .inl ?_
    simp only [marked, List.mem_cons, List.not_mem_nil, or_false] at hmarked
    rcases hmarked with rfl | rfl | rfl | rfl | rfl | rfl | rfl
    · exact ⟨'"', by decide, by decide, rfl⟩
    · exact ⟨'\\', by decide, by decide, rfl⟩
    · exact ⟨'b', by decide, by decide, rfl⟩
    · exact ⟨'t', by decide, by decide, rfl⟩
    · exact ⟨'n', by decide, by decide, rfl⟩
    · exact ⟨'f', by decide, by decide, rfl⟩
    · exact ⟨'r', by decide, by decide, rfl⟩
  · refine .inr ?_
    simp only [marked, List.mem_cons, List.not_mem_nil, or_false, not_or] at hmarked
    obtain ⟨hquote, hslash, h1, h2, h3, h4, h5⟩ := hmarked
    unfold escapeChar
    rw [if_neg hquote, if_neg hslash, if_neg h1, if_neg h2, if_neg h3, if_neg h4, if_neg h5]
    by_cases hlow : c.toNat < 0x20
    · exact .inl ⟨hlow, if_pos hlow⟩
    · exact .inr ⟨if_neg hlow, hquote, hslash, by omega⟩

/-- The number of a control character is read back. -/
theorem hexUnit?_hex {n : Nat} (h : n < 0x20) :
    ∃ a b c d, Text.hex 4 n = [a, b, c, d] ∧
      hexUnit? (.char a) (.char b) (.char c) (.char d) = some n := by
  refine ⟨_, _, _, _, rfl, ?_⟩
  revert n
  decide

theorem joinPieces_unit {n : Nat} (h : n < 0xD800) (pieces : List Piece) :
    joinPieces (.unit n :: pieces) = .ofNat n :: joinPieces pieces := by
  cases pieces with
  | nil => rfl
  | cons piece pieces =>
    cases piece with
    | plain s => rfl
    | unit m =>
      have hpair : Text.isPair n m = false := by
        simp [Text.isPair]
        omega
      rw [joinPieces, hpair]
      rfl

variable {start rest : List Symbol}

/-! ## Texts -/

theorem readPieces_mark {mark c : Char} (hu : mark ≠ 'u') (h : escaped? mark = some c) :
    readPieces start (.char '\\' :: .char mark :: rest) =
      (readPieces start rest).as (.plain (.char c) :: ·) := by
  rw [readPieces]
  · simp [Symbol.char?, h]
  · simp [hu]
  · simp [hu]

theorem readPieces_number {a b c d : Symbol} {n : Nat} (h : hexUnit? a b c d = some n)
    (hrest : rest ≠ []) :
    readPieces start (.char '\\' :: .char 'u' :: a :: b :: c :: d :: rest) =
      (readPieces start rest).as (.unit n :: ·) := by
  cases rest with
  | nil => exact absurd rfl hrest
  | cons s rest =>
    rw [readPieces.eq_def]
    simp only [h]

theorem readPieces_plain {c : Char} (hquote : c ≠ '"') (hslash : c ≠ '\\') (hlow : 0x20 ≤ c.toNat) :
    readPieces start (.char c :: rest) = (readPieces start rest).as (.plain (.char c) :: ·) := by
  rw [readPieces]
  · simp [hslash, Symbol.char?, Nat.not_lt.2 hlow]
  · simpa using hquote
  · simp [hslash]
  · simp [hslash]
  · simp [hslash]

/-- A text is read back from between its quotation marks. -/
theorem readPieces_escape (start rest : List Symbol) (cs : List Char) :
    ∃ pieces, readPieces start ((cs.flatMap escapeChar).map .char ++ .char '"' :: rest) =
      .ok (pieces, rest) ∧ joinPieces pieces = cs.map .char := by
  induction cs with
  | nil => exact ⟨[], rfl, rfl⟩
  | cons c cs ih =>
    obtain ⟨pieces, hread, hjoin⟩ := ih
    -- Each of the three ways to write a character is read as one piece.
    rw [List.flatMap_cons, List.map_append, List.append_assoc]
    rcases escapeChar_cases c with
      ⟨mark, hesc, hu, hmark⟩ | ⟨hlow, hesc⟩ | ⟨hesc, hquote, hslash, hlow⟩
    · refine ⟨.plain (.char c) :: pieces, ?_, ?_⟩
      · rw [hesc, List.map_cons, List.map_singleton, List.cons_append, List.singleton_append,
          readPieces_mark hu hmark, hread]
        rfl
      · rw [joinPieces, hjoin, List.map_cons]
    · obtain ⟨x, y, z, w, hhex, hunit⟩ := hexUnit?_hex hlow
      refine ⟨.unit c.toNat :: pieces, ?_, ?_⟩
      · rw [hesc, hhex]
        simp only [List.map_cons, List.map_nil, List.cons_append, List.nil_append]
        rw [readPieces_number hunit (by simp), hread]
        rfl
      · rw [joinPieces_unit (by omega), hjoin, List.map_cons, Text.Symbol.ofNat_toNat]
    · refine ⟨.plain (.char c) :: pieces, ?_, ?_⟩
      · rw [hesc, List.map_singleton, List.singleton_append, readPieces_plain hquote hslash hlow,
          hread]
        rfl
      · rw [joinPieces, hjoin, List.map_cons]

/-! ## Fields -/

/-- What fields that hold texts are read as. -/
def namedTexts (fields : List (String × String)) : List (List Symbol × Json) :=
  fields.map fun f => (f.1.toList.map .char, .text f.2)

theorem ofSymbols_map_char (s : String) : ofSymbols (s.toList.map .char) = .text s := by
  rw [ofSymbols, Text.wholeText?_map_char]
  simp only [String.ofList_toList]

theorem ofNamed_namedTexts (fields : List (String × String)) :
    ofNamed (namedTexts fields) = .object (fields.map fun f => (f.1, .text f.2)) := by
  have h : (namedTexts fields).mapM (fun f => (Text.wholeText? f.1).map fun cs =>
      (String.ofList cs, f.2)) = some (fields.map fun f => (f.1, .text f.2)) := by
    induction fields with
    | nil => rfl
    | cons f fields ih =>
      rw [namedTexts] at ih ⊢
      simp [List.mapM_cons, Text.wholeText?_map_char, ih, -List.mapM_map]
  rw [ofNamed, h]

theorem setField_of_notMem {κ : Type} [DecidableEq κ] {key : κ} {fields : List (κ × Json)}
    (value : Json) (h : key ∉ fields.map (·.1)) :
    setField key value fields = fields ++ [(key, value)] := by
  induction fields with
  | nil => rfl
  | cons f fields ih =>
    obtain ⟨hne, hrest⟩ : key ≠ f.1 ∧ key ∉ fields.map (·.1) := by simpa using h
    rw [setField, if_neg (Ne.symm hne), ih hrest]
    rfl

theorem readValue_quote (fuel room : Nat) :
    readValue (fuel + 1) room (.char '"' :: rest) =
      (readPieces (.char '"' :: rest) rest).as fun pieces => ofSymbols (joinPieces pieces) := rfl

theorem readValue_object_nil (fuel room : Nat) (rest : List Symbol) :
    readValue (fuel + 1) (room + 1) (.char '\x7b' :: .char '\x7d' :: rest) =
      .ok (.object [], rest) := rfl

theorem readValue_object (fuel room : Nat) (rest : List Symbol) :
    readValue (fuel + 1) (room + 1) (.char '\x7b' :: .char '"' :: rest) =
      (readFields fuel room [] (.char '"' :: rest)).as ofNamed := rfl

theorem readValue_writeText {fuel room : Nat} (s : String) :
    readValue (fuel + 1) room ((writeText s).map .char ++ rest) = .ok (.text s, rest) := by
  obtain ⟨pieces, hread, hjoin⟩ :=
    readPieces_escape ((writeText s).map .char ++ rest) rest s.toList
  have hform : (writeText s).map .char ++ rest =
      .char '"' :: ((s.toList.flatMap escapeChar).map .char ++ .char '"' :: rest) := by
    simp [writeText]
  rw [hform] at hread ⊢
  rw [readValue_quote, hread]
  simp only [Reading.as, Except.map, hjoin, ofSymbols_map_char]

theorem skipBlank_cons {c : Char} (h : c ≠ ' ' ∧ c ≠ '\t' ∧ c ≠ '\n' ∧ c ≠ '\r') :
    skipBlank (.char c :: rest) = .char c :: rest := by
  rw [skipBlank, if_neg (by simpa using h)]

/-- The text of a field with a text. -/
def fieldChars (f : String × String) : List Char :=
  writeText f.1 ++ ':' :: writeText f.2

theorem compactFields_texts (f : String × String) (fields : List (String × String)) :
    compactFields ((f :: fields).map fun f => (f.1, .text f.2)) =
      fieldChars f ++ if fields = [] then [] else
        ',' :: compactFields (fields.map fun f => (f.1, .text f.2)) := by
  cases fields with
  | nil => simp [compactFields, fieldChars, compactChars, writeScalar]
  | cons g fields => simp [compactFields, fieldChars, compactChars, writeScalar]

theorem compactFields_texts_head {fields : List (String × String)} (hne : fields ≠ []) :
    ∃ cs, compactFields (fields.map fun f => (f.1, .text f.2)) = '"' :: cs := by
  cases fields with
  | nil => exact absurd rfl hne
  | cons f fields => exact ⟨_, by rw [compactFields_texts]; rfl⟩

theorem fieldChars_append (f : String × String) (rest : List Symbol) :
    (fieldChars f).map .char ++ rest =
      .char '"' :: ((f.1.toList.flatMap escapeChar).map .char ++ .char '"' :: .char ':' ::
        ((writeText f.2).map .char ++ rest)) := by
  simp [fieldChars, writeText]

/-- The last field is read, with the closing brace behind it. -/
theorem readFields_last (fuel room : Nat) (f : String × String)
    (before : List (List Symbol × Json)) :
    readFields (fuel + 2) room before ((fieldChars f).map .char ++ .char '\x7d' :: rest) =
      .ok (setField (f.1.toList.map .char) (.text f.2) before, rest) := by
  have hblank : skipBlank ((writeText f.2).map .char ++ .char '\x7d' :: rest) =
      (writeText f.2).map .char ++ .char '\x7d' :: rest := skipBlank_cons (by decide)
  obtain ⟨pieces, hread, hjoin⟩ := readPieces_escape
    ((fieldChars f).map .char ++ .char '\x7d' :: rest)
    (.char ':' :: ((writeText f.2).map .char ++ .char '\x7d' :: rest)) f.1.toList
  rw [fieldChars_append] at hread ⊢
  rw [readFields, hread]
  simp only [skipBlank_cons (c := ':') (by decide), skipBlank_cons (c := '\x7d') (by decide),
    hblank, readValue_writeText, hjoin]

/-- Any other field is read, with the comma behind it, and then the fields that follow. -/
theorem readFields_more (fuel room : Nat) (f : String × String)
    (before : List (List Symbol × Json)) (hrest : skipBlank rest = rest) :
    readFields (fuel + 2) room before ((fieldChars f).map .char ++ .char ',' :: rest) =
      readFields (fuel + 1) room (setField (f.1.toList.map .char) (.text f.2) before) rest := by
  have hblank : skipBlank ((writeText f.2).map .char ++ .char ',' :: rest) =
      (writeText f.2).map .char ++ .char ',' :: rest := skipBlank_cons (by decide)
  obtain ⟨pieces, hread, hjoin⟩ := readPieces_escape
    ((fieldChars f).map .char ++ .char ',' :: rest)
    (.char ':' :: ((writeText f.2).map .char ++ .char ',' :: rest)) f.1.toList
  rw [fieldChars_append] at hread ⊢
  rw [readFields, hread]
  simp only [skipBlank_cons (c := ':') (by decide), skipBlank_cons (c := ',') (by decide),
    hblank, hrest, readValue_writeText, hjoin]

/-- A field of a new name goes behind the others. -/
theorem setField_namedTexts {f : String × String} {before : List (String × String)}
    (h : f.1 ∉ before.map (·.1)) :
    setField (f.1.toList.map .char) (.text f.2) (namedTexts before) =
      namedTexts (before ++ [f]) := by
  rw [setField_of_notMem]
  · simp [namedTexts]
  · intro hmem
    simp only [namedTexts, List.map_map, List.mem_map, Function.comp_apply] at hmem
    obtain ⟨b, hb, heq⟩ := hmem
    have hkey : b.1 = f.1 :=
      String.toList_inj.1 ((List.map_inj_right fun _ _ h => by injection h).1 heq)
    exact h (hkey ▸ List.mem_map_of_mem hb)

/-- Fields that hold texts are read back, up to the closing brace. -/
theorem readFields_texts {fields : List (String × String)} (hne : fields ≠ []) {fuel : Nat}
    (room : Nat) (rest : List Symbol) (hfuel : fields.length < fuel)
    (before : List (String × String))
    (hnodup : ((before ++ fields).map (·.1)).Nodup) :
    readFields fuel room (namedTexts before)
      ((compactFields (fields.map fun f => (f.1, .text f.2))).map .char ++ .char '\x7d' :: rest) =
        .ok (namedTexts (before ++ fields), rest) := by
  -- By the fields that are still to be read; those read so far stand in front.
  induction fields generalizing fuel before with
  | nil => exact absurd rfl hne
  | cons f fields ih =>
    obtain ⟨fuel, rfl⟩ : ∃ k, fuel = k + 2 := ⟨fuel - 2, by simp at hfuel; omega⟩
    have hnew : f.1 ∉ before.map (·.1) := by
      rw [List.map_append, List.map_cons, List.nodup_append] at hnodup
      intro hmem
      exact hnodup.2.2 _ hmem _ List.mem_cons_self rfl
    have hset := setField_namedTexts hnew
    rw [compactFields_texts, List.map_append, List.append_assoc]
    by_cases hlast : fields = []
    · rw [if_pos hlast, List.map_nil, List.nil_append, readFields_last, hset, hlast]
    · obtain ⟨cs, hcs⟩ := compactFields_texts_head hlast
      have hblank : skipBlank ((compactFields (fields.map fun f => (f.1, .text f.2))).map .char ++
            .char '\x7d' :: rest) =
          (compactFields (fields.map fun f => (f.1, .text f.2))).map .char ++
            .char '\x7d' :: rest := by
        rw [hcs]
        exact skipBlank_cons (by decide)
      rw [if_neg hlast, List.map_cons, List.cons_append, readFields_more _ _ _ _ hblank, hset,
        ih hlast (by simp at hfuel; omega) (before ++ [f]) (by simpa using hnodup),
        List.append_assoc, List.singleton_append]

theorem length_le_length_compactFields (fields : List (String × String)) :
    fields.length ≤ (compactFields (fields.map fun f => (f.1, .text f.2))).length := by
  induction fields with
  | nil => exact Nat.zero_le _
  | cons f fields ih =>
    rw [compactFields_texts, List.length_append]
    by_cases hlast : fields = []
    · simp [hlast, fieldChars, writeText]
    · simp only [if_neg hlast, fieldChars, writeText, List.length_append, List.length_cons]
      omega

/-- An object of fields that hold texts is read back. -/
theorem readValue_texts {fields : List (String × String)} (hnodup : (fields.map (·.1)).Nodup)
    {fuel room : Nat} (hfuel : fields.length < fuel) :
    readValue (fuel + 1) (room + 1)
      ((Json.object (fields.map fun f => (f.1, .text f.2))).compactChars.map .char) =
        .ok (.object (fields.map fun f => (f.1, .text f.2)), []) := by
  by_cases hne : fields = []
  · subst hne
    exact readValue_object_nil fuel room []
  · have hread := readFields_texts hne room [] hfuel [] hnodup
    obtain ⟨cs, hcs⟩ := compactFields_texts_head hne
    rw [compactChars, List.cons_append, List.map_cons, List.map_append, List.map_singleton]
    rw [hcs, List.map_cons, List.cons_append] at hread ⊢
    rw [readValue_object, show ([] : List (List Symbol × Json)) = namedTexts [] from rfl, hread]
    simp only [Reading.as, Except.map, List.nil_append, ofNamed_namedTexts]

/-- A document of fields that hold texts is read back. -/
theorem read_texts {fields : List (String × String)} (hnodup : (fields.map (·.1)).Nodup) :
    read ((Json.object (fields.map fun f => (f.1, .text f.2))).compactChars.map .char) =
      .ok (.object (fields.map fun f => (f.1, .text f.2))) := by
  have hlen := length_le_length_compactFields fields
  generalize hdoc : Json.object (fields.map fun f => (f.1, .text f.2)) = j at *
  have hhead : ∃ cs, j.compactChars = '\x7b' :: cs ∧ fields.length ≤ cs.length := by
    subst hdoc
    refine ⟨compactFields (fields.map fun f => (f.1, .text f.2)) ++ ['\x7d'], rfl, ?_⟩
    rw [List.length_append]
    omega
  obtain ⟨cs, hcs, hlen⟩ := hhead
  -- Every field takes at least one character, so the length of the text is fuel enough.
  have hvalue : readValue (2 * (j.compactChars.map Symbol.char).length + 2) nestingLimit
      (j.compactChars.map .char) = .ok (j, []) := by
    rw [← hdoc]
    refine readValue_texts hnodup ?_
    rw [hdoc, hcs, List.length_map, List.length_cons]
    omega
  have hblank : skipBlank (j.compactChars.map .char) = j.compactChars.map .char := by
    rw [hcs]
    exact skipBlank_cons (by decide)
  have hmark : (j.compactChars.map Symbol.char).head? ≠ some (.char '\uFEFF') := by
    rw [hcs]
    simp
  have hdocument : readDocument (j.compactChars.map .char) = .ok j := by
    rw [readDocument, if_neg hmark, hblank, hvalue]
    rfl
  rw [read, hdocument]
  rfl

end Json

/-! ## Tokens -/

namespace PageToken

/-- The fields that a token writes. -/
def fields (t : PageToken) : List (String × String) :=
  (t.phase.map fun p => ("phase", p.name)).toList ++ (t.resume.map ("token", ·)).toList ++
    (t.listing.map ("listing", ·)).toList

theorem toJson_eq (t : PageToken) :
    t.toJson = .object (t.fields.map fun f => (f.1, .text f.2)) := by
  obtain ⟨phase, resume, listing⟩ := t
  cases phase <;> cases resume <;> cases listing <;> rfl

theorem nodup_fields (t : PageToken) : (t.fields.map (·.1)).Nodup := by
  obtain ⟨phase, resume, listing⟩ := t
  cases phase <;> cases resume <;> cases listing <;> simp [fields]

/-- The document of a token is read as that token. -/
theorem ofJson_toJson (t : PageToken) : ofJson t.toJson = .valid t := by
  obtain ⟨phase, resume, listing⟩ := t
  cases phase with
  | none => cases resume <;> cases listing <;> rfl
  | some phase => cases phase <;> cases resume <;> cases listing <;> rfl

/-- The document of a token begins with a brace and a mark. -/
theorem compactChars_toJson (t : PageToken) :
    ∃ c cs, t.toJson.compactChars = '\x7b' :: c :: cs ∧ c.toNat < 0x80 ∧ c.toNat ≠ 0 := by
  rw [toJson_eq]
  by_cases hne : t.fields = []
  · exact ⟨'\x7d', [], by rw [hne]; rfl, by decide, by decide⟩
  · obtain ⟨cs, hcs⟩ := Json.compactFields_texts_head hne
    refine ⟨'"', cs ++ ['\x7d'], ?_, by decide, by decide⟩
    rw [Json.compactChars, hcs]
    rfl

/-- The document of a token is found again in its text. -/
theorem symbols?_encode (t : PageToken) :
    symbols? t.encode = some (t.toJson.compactChars.map .char) := by
  have hascii : t.encode.toList.all (fun c => c.toNat < 128) = true := by
    rw [List.all_eq_true]
    intro c hc
    rw [encode, String.toList_ofList] at hc
    exact decide_eq_true (Text.Base64.lt_of_mem_encode (fun _ h => Text.lt_of_mem_utf8 h) hc)
  obtain ⟨c, cs, hcs, hlow, hzero⟩ := t.compactChars_toJson
  -- The two characters in front are ASCII, so the octets are taken for UTF-8.
  rw [symbols?, if_pos hascii, encode, String.toList_ofList,
    Text.Base64.decode?_encode fun _ h => Text.lt_of_mem_utf8 h, Option.bind_some, hcs]
  exact Text.decode?_utf8 cs (by decide) hlow (by decide) hzero

/-- No token is written as the empty text. -/
theorem encode_ne_empty (t : PageToken) : t.encode ≠ "" := by
  intro hempty
  have hsymbols := t.symbols?_encode
  obtain ⟨c, cs, hcs, -⟩ := t.compactChars_toJson
  have hnone : symbols? "" = some [] := rfl
  rw [hempty, hcs, hnone] at hsymbols
  cases hsymbols

/-- A token is read back from its text. -/
theorem decode_encode (t : PageToken) : decode t.encode = .ok t := by
  have hread : Json.read (t.toJson.compactChars.map .char) = .ok t.toJson := by
    rw [toJson_eq]
    exact Json.read_texts t.nodup_fields
  rw [decode, if_neg t.encode_ne_empty, symbols?_encode, Option.map_some, hread]
  simp only [ofJson_toJson]

/-- A token is written in the letters and digits of ASCII, dashes, underscores and padding. -/
theorem urlSafe_of_mem_encode {t : PageToken} {c : Char} (hc : c ∈ t.encode.toList) :
    c.isAlphanum ∨ c = '-' ∨ c = '_' ∨ c = '=' := by
  rw [encode, String.toList_ofList] at hc
  exact Text.Base64.urlSafe_of_mem_encode (fun _ h => Text.lt_of_mem_utf8 h) hc

/-- Different tokens are written differently. -/
theorem encode_injective {t₁ t₂ : PageToken} (h : t₁.encode = t₂.encode) : t₁ = t₂ := by
  have hdecode := t₁.decode_encode
  rw [h, decode_encode, Except.ok.injEq] at hdecode
  exact hdecode.symm

/-- Callers are told of a token by its text, and by the empty text that there is none. -/
theorem getD_encode_eq_empty_iff {state : Option PageToken} :
    (state.map encode).getD "" = "" ↔ state = none := by
  cases state with
  | none => exact iff_of_true rfl rfl
  | some t => exact iff_of_false t.encode_ne_empty (Option.some_ne_none t)

/-- The token of the page at a place holds the place and nothing else. -/
theorem next_some {place : String} (h : place ≠ "") :
    next (some place) = some (encode { resume := some place }) := by
  rw [next, if_neg h]

/-- Tokens make the round trip, whatever characters their places and listings hold. No token reads
    as the empty text, which would end a listing, none reads like another one, and what follows a
    page of a single list is the token of the place where it goes on. -/
theorem encode_faithful :
    (∀ t : PageToken, decode t.encode = .ok t ∧ t.encode ≠ "" ∧
      ∀ c ∈ t.encode.toList, c.isAlphanum ∨ c = '-' ∨ c = '_' ∨ c = '=') ∧
    (∀ t₁ t₂ : PageToken, t₁.encode = t₂.encode → t₁ = t₂) ∧
    (∀ state : Option PageToken, (state.map encode).getD "" = "" ↔ state = none) ∧
    ∀ place : String, place ≠ "" →
      ∃ text, next (some place) = some text ∧ decode text = .ok { resume := some place } := by
  refine ⟨fun t => ?_, fun _ _ => encode_injective, fun _ => getD_encode_eq_empty_iff, ?_⟩
  · exact ⟨t.decode_encode, t.encode_ne_empty, fun c hc => urlSafe_of_mem_encode hc⟩
  · intro place hplace
    exact ⟨_, next_some hplace, decode_encode _⟩

end PageToken
end ClusterAccess
