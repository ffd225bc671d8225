import PolicyKeeper.Proofs.Text.Splitting
import PolicyKeeper.Url.Host

/-!
# Percent encoding loses nothing

What is written with escapes is read back whatever the text, as long as the bytes that are kept say
nothing else: they are ASCII, and the percent sign is not among them. This holds of names and of the
parts of a form, and so two texts are never written alike. A form is read by cutting it before it is
decoded, which is why its pairs come back as well.

The other half is what a written text can look like. All its characters are bytes that are kept,
percent signs and hexadecimal digits, so what separates segments or pairs is not among them unless
it is kept.
-/

namespace PolicyKeeper.Url

variable {keep : UInt8 → Bool} {b : UInt8} {bs : List UInt8} {c d : Char} {cs rest : List Char}
  {s t : String}

/-! ## Bytes of a text -/

theorem toNat_ofNat_ascii {n : Nat} (h : n < 128) : (Char.ofNat n).toNat = n := by
  rw [Char.ofNat, dif_pos (.inl (by omega))]
  rfl

theorem utf8Bytes_cons (c : Char) (cs : List Char) :
    utf8Bytes (c :: cs) = String.utf8EncodeChar c ++ utf8Bytes cs := rfl

theorem ofNat_ne (h : b.toNat < 128) (hne : b.toNat ≠ d.toNat) : Char.ofNat b.toNat ≠ d := by
  rintro rfl
  exact hne (toNat_ofNat_ascii h).symm

/-- An ASCII character is one byte. -/
theorem utf8EncodeChar_ascii (h : c.toNat < 128) :
    String.utf8EncodeChar c = [UInt8.ofNat c.toNat] := by
  have hsmall : c.val.toNat ≤ 127 := Nat.lt_succ_iff.mp h
  simp only [String.utf8EncodeChar, if_pos hsmall]
  rfl

/-- The bytes of any other character are none of ASCII. -/
theorem le_of_mem_utf8EncodeChar (hc : 128 ≤ c.toNat) (h : b ∈ String.utf8EncodeChar c) :
    128 ≤ b.toNat := by
  have hlarge : ¬ c.val.toNat ≤ 127 := Nat.not_le.mpr hc
  have hbyte : ∀ n, 128 ≤ n % 256 → 128 ≤ (UInt8.ofNat n).toNat := fun _ hn => hn
  simp only [String.utf8EncodeChar, if_neg hlarge] at h
  split at h <;> (try split at h) <;>
    simp only [List.mem_cons, List.not_mem_nil, or_false] at h <;>
    rcases h with rfl | rfl | rfl | rfl <;> exact hbyte _ (by omega)

/-- A byte of ASCII among the bytes of a text is a character of it. -/
theorem mem_of_mem_utf8Bytes (h : b ∈ utf8Bytes cs) (hb : b.toNat < 128) :
    Char.ofNat b.toNat ∈ cs := by
  obtain ⟨c, hc, hbc⟩ := List.mem_flatMap.mp h
  have hascii : c.toNat < 128 := by
    refine Nat.lt_of_not_le fun hlarge => ?_
    have := le_of_mem_utf8EncodeChar hlarge hbc
    omega
  rw [utf8EncodeChar_ascii hascii] at hbc
  have hbyte : b.toNat = c.toNat := by
    rw [List.mem_singleton.mp hbc]
    exact Nat.mod_eq_of_lt (by omega)
  rw [hbyte, Char.ofNat_toNat]
  exact hc

/-- The bytes of a text are read as the text. -/
theorem fromUTF8?_utf8Bytes (cs : List Char) :
    String.fromUTF8? ⟨(utf8Bytes cs).toArray⟩ = some (String.ofList cs) := by
  have hbytes : (⟨(utf8Bytes cs).toArray⟩ : ByteArray) = (String.ofList cs).toByteArray := by
    rw [String.toByteArray_ofList]
    exact ByteArray.ext List.data_toByteArray.symm
  rw [hbytes]
  exact dif_pos (String.ofList cs).isValidUTF8

/-! ## Hexadecimal digits -/

/-- A hexadecimal digit is read back. -/
theorem hexValue?_hexDigit : ∀ n < 16, Text.hexValue? (hexDigit n) = some n := by decide

/-! ## Reading back -/

/-- The bytes that are kept are ASCII, and the percent sign is not among them. -/
def Legible (keep : UInt8 → Bool) : Prop := ∀ b, keep b = true → b.toNat < 128 ∧ b.toNat ≠ 37

theorem decodeBytes_cons (h : c ≠ '%') :
    decodeBytes (c :: rest) = String.utf8EncodeChar c ++ decodeBytes rest := by
  rw [decodeBytes]
  rintro a b rest rfl
  exact absurd rfl h

theorem decodeBytes_escapeByte : decodeBytes (escapeByte b ++ rest) = b :: decodeBytes rest := by
  have hb : b.toNat < 256 := b.toNat_lt
  have hdigits : 16 * (b.toNat / 16) + b.toNat % 16 = b.toNat := Nat.div_add_mod ..
  rw [escapeByte, List.cons_append, List.cons_append, List.cons_append, List.nil_append,
    decodeBytes]
  simp only [hexValue?_hexDigit _ (show b.toNat / 16 < 16 by omega),
    hexValue?_hexDigit _ (show b.toNat % 16 < 16 by omega), hdigits, UInt8.ofNat_toNat]

theorem decodeBytes_kept (h : b.toNat < 128 ∧ b.toNat ≠ 37) :
    decodeBytes (Char.ofNat b.toNat :: rest) = b :: decodeBytes rest := by
  have hnat : (Char.ofNat b.toNat).toNat = b.toNat := toNat_ofNat_ascii h.1
  have hpercent : Char.ofNat b.toNat ≠ '%' := by
    intro he
    rw [he] at hnat
    exact h.2 hnat.symm
  rw [decodeBytes_cons hpercent, utf8EncodeChar_ascii (by omega), hnat, UInt8.ofNat_toNat]
  rfl

/-- **What is written is read back.** -/
theorem decodeBytes_encodeBytes (hkeep : Legible keep) :
    decodeBytes (encodeBytes keep bs) = bs := by
  induction bs with
  | nil => rfl
  | cons b bs ih =>
      rw [encodeBytes, List.flatMap_cons, ← encodeBytes]
      by_cases hb : keep b = true
      · rw [if_pos hb, List.singleton_append, decodeBytes_kept (hkeep b hb), ih]
      · rw [if_neg hb, decodeBytes_escapeByte, ih]

theorem decodeText?_encodeWith (hkeep : Legible keep) :
    decodeText? (encodeWith keep s).toList = some s.toList := by
  rw [decodeText?, encodeWith, String.toList_ofList, decodeBytes_encodeBytes hkeep,
    fromUTF8?_utf8Bytes, Option.map_some, String.toList_ofList]

/-! ## What is written -/

/-- What holds of the percent sign, of hexadecimal digits and of the bytes that are kept holds of
every character that is written. -/
theorem forall_mem_encodeBytes {P : Char → Prop} (hpercent : P '%')
    (hdigit : ∀ n < 16, P (hexDigit n)) (hkept : ∀ b ∈ bs, keep b = true → P (Char.ofNat b.toNat)) :
    ∀ c ∈ encodeBytes keep bs, P c := by
  intro c hc
  obtain ⟨b, hb, hcb⟩ := List.mem_flatMap.mp hc
  split at hcb
  · rename_i hkeep
    rw [List.mem_singleton.mp hcb]
    exact hkept b hb hkeep
  · have hlt : b.toNat < 256 := b.toNat_lt
    simp only [escapeByte, List.mem_cons, List.not_mem_nil, or_false] at hcb
    rcases hcb with rfl | rfl | rfl
    · exact hpercent
    · exact hdigit _ (by omega)
    · exact hdigit _ (by omega)

/-- A text all of whose characters are kept is written as it is. -/
theorem encodeBytes_eq_self (h : ∀ c ∈ cs, c.toNat < 128 ∧ keep (UInt8.ofNat c.toNat) = true) :
    encodeBytes keep (utf8Bytes cs) = cs := by
  induction cs with
  | nil => rfl
  | cons c cs ih =>
      have hc := h c List.mem_cons_self
      have hbyte : (UInt8.ofNat c.toNat).toNat = c.toNat := Nat.mod_eq_of_lt (by omega)
      rw [utf8Bytes_cons, utf8EncodeChar_ascii hc.1, encodeBytes, List.singleton_append,
        List.flatMap_cons, if_pos hc.2, ← encodeBytes,
        ih fun d hd => h d (List.mem_cons_of_mem c hd), hbyte, Char.ofNat_toNat]
      rfl

/-! ## Names -/

theorem isWordByte_iff : isWordByte b = true ↔
    48 ≤ b.toNat ∧ b.toNat ≤ 57 ∨ 65 ≤ b.toNat ∧ b.toNat ≤ 90 ∨ 97 ≤ b.toNat ∧ b.toNat ≤ 122 := by
  simp [isWordByte, UInt8.le_iff_toNat_le, or_assoc]

theorem keptInName_iff : keptInName b = true ↔
    isWordByte b = true ∨ b.toNat = 45 ∨ b.toNat = 95 ∨ b.toNat = 46 ∨ b.toNat = 126 := by
  simp [keptInName, isOneOf, @eq_comm _ _ b.toNat]

theorem legible_keptInName : Legible keptInName := by
  intro b hb
  rw [keptInName_iff, isWordByte_iff] at hb
  omega

/-- **A name is read back from its segment.** -/
theorem decodeText?_encodeName (s : String) : decodeText? (encodeName s).toList = some s.toList :=
  decodeText?_encodeWith legible_keptInName

theorem encodeName_injective (h : encodeName s = encodeName t) : s = t := by
  have hread := decodeText?_encodeName s
  rw [h, decodeText?_encodeName t] at hread
  exact (String.toList_inj.mp (Option.some.inj hread)).symm

/-! ## Forms -/

theorem keptInForm_iff : keptInForm b = true ↔
    isWordByte b = true ∨ b.toNat = 42 ∨ b.toNat = 45 ∨ b.toNat = 46 ∨ b.toNat = 95 := by
  simp [keptInForm, isOneOf, @eq_comm _ _ b.toNat]

/-- The bytes that a form writes as one character. -/
def keptOrSpace (b : UInt8) : Bool := b == 32 || keptInForm b

theorem keptOrSpace_iff : keptOrSpace b = true ↔ b.toNat = 32 ∨ keptInForm b = true := by
  rw [keptOrSpace, Bool.or_eq_true, beq_iff_eq, ← UInt8.toNat_inj]
  rfl

theorem legible_keptOrSpace : Legible keptOrSpace := by
  intro b hb
  rw [keptOrSpace_iff, keptInForm_iff, isWordByte_iff] at hb
  omega

/-- How a character of a form is decoded before the escapes are. -/
def spaced (c : Char) : Char := if c = '+' then ' ' else c

theorem spaced_of_ne (h : c ≠ '+') : spaced c = c := if_neg h

/-- But for the plus signs a part of a form is written as other texts are. -/
theorem map_spaced_encodeFormPart (s : String) :
    (encodeFormPart s).toList.map spaced = encodeBytes keptOrSpace (utf8Bytes s.toList) := by
  rw [encodeFormPart, String.toList_ofList, List.map_flatMap, encodeBytes]
  congr 1
  funext b
  by_cases hspace : b.toNat = 32
  · obtain rfl : b = 32 := UInt8.toNat_inj.mp hspace
    rfl
  have hnot : ¬ (b == 32) = true := fun h => hspace (congrArg UInt8.toNat (eq_of_beq h))
  rw [if_neg hnot]
  by_cases hform : keptInForm b = true
  · have hkept : keptOrSpace b = true := keptOrSpace_iff.mpr (.inr hform)
    have hplus : b.toNat ≠ 43 := by
      rw [keptInForm_iff, isWordByte_iff] at hform
      omega
    rw [if_pos hform, if_pos hkept, List.map_singleton,
      spaced_of_ne (ofNat_ne (legible_keptOrSpace b hkept).1 hplus)]
  · have hkept : ¬ keptOrSpace b = true := fun h => (keptOrSpace_iff.mp h).elim hspace hform
    have hdigit : ∀ n < 16, spaced (hexDigit n) = hexDigit n := by decide
    have hb : b.toNat < 256 := b.toNat_lt
    rw [if_neg hform, if_neg hkept, escapeByte, List.map_cons, List.map_cons, List.map_singleton,
      hdigit _ (by omega), hdigit _ (by omega)]
    rfl

theorem decodeFormBytes_encodeFormPart (s : String) :
    decodeFormBytes (encodeFormPart s).toList = utf8Bytes s.toList := by
  change decodeBytes ((encodeFormPart s).toList.map spaced) = _
  rw [map_spaced_encodeFormPart, decodeBytes_encodeBytes legible_keptOrSpace]

/-- What separates pairs, or a key from its value, is in no part of a form. -/
theorem separates_of_mem_encodeFormPart (h : c ∈ (encodeFormPart s).toList) :
    c ≠ '&' ∧ c ≠ '=' := by
  have hspaced : spaced c ≠ '&' ∧ spaced c ≠ '=' := by
    refine forall_mem_encodeBytes (P := fun c => c ≠ '&' ∧ c ≠ '=') (by decide) (by decide)
      (fun b _ hb => ?_) (spaced c) (map_spaced_encodeFormPart s ▸ List.mem_map_of_mem h)
    have hascii := (legible_keptOrSpace b hb).1
    rw [keptOrSpace_iff, keptInForm_iff, isWordByte_iff] at hb
    exact ⟨ofNat_ne hascii (by change _ ≠ 38; omega), ofNat_ne hascii (by change _ ≠ 61; omega)⟩
  constructor
  · rintro rfl
    exact hspaced.1 rfl
  · rintro rfl
    exact hspaced.2 rfl

/-- Writes a form. -/
def writeForm (pairs : List (String × String)) : String :=
  String.intercalate "&" (pairs.map encodePair)

/-- Reads a part of a form. -/
def readFormPart? (cs : List Char) : Option String :=
  String.fromUTF8? ⟨(decodeFormBytes cs).toArray⟩

/-- Reads a key and its value, with the first equals sign between them. -/
def readPair? (cs : List Char) : Option (String × String) := do
  let key ← readFormPart? (cs.takeWhile (· != '='))
  let value ← readFormPart? ((cs.dropWhile (· != '=')).drop 1)
  return (key, value)

/-- Reads a form: pairs with ampersands between them. -/
def readForm? (cs : List Char) : Option (List (String × String)) :=
  ((Text.splitChars '&' cs).filter fun piece => !piece.isEmpty).mapM readPair?

theorem readFormPart?_encodeFormPart (s : String) :
    readFormPart? (encodeFormPart s).toList = some s := by
  rw [readFormPart?, decodeFormBytes_encodeFormPart, fromUTF8?_utf8Bytes, String.ofList_toList]

theorem toList_encodePair (pair : String × String) : (encodePair pair).toList =
    (encodeFormPart pair.1).toList ++ '=' :: (encodeFormPart pair.2).toList := by
  rw [encodePair, String.toList_append, String.toList_append, List.append_assoc]
  rfl

theorem readPair?_encodePair (pair : String × String) :
    readPair? (encodePair pair).toList = some pair := by
  have hkey : ∀ c ∈ (encodeFormPart pair.1).toList, (c != '=') = true := fun c hc =>
    bne_iff_ne.mpr (separates_of_mem_encodeFormPart hc).2
  rw [readPair?, toList_encodePair, List.takeWhile_append_of_pos hkey,
    List.dropWhile_append_of_pos hkey, List.takeWhile_cons_of_neg (by decide), List.append_nil,
    List.dropWhile_cons_of_neg (by decide), List.drop_one, List.tail_cons,
    readFormPart?_encodeFormPart, readFormPart?_encodeFormPart]
  rfl

theorem mapM_readPair?_encodePair (pairs : List (String × String)) :
    (pairs.map fun pair => (encodePair pair).toList).mapM readPair? = some pairs := by
  induction pairs with
  | nil => rfl
  | cons pair pairs ih =>
      rw [List.map_cons, List.mapM_cons, readPair?_encodePair, ih]
      rfl

theorem not_mem_encodePair (pair : String × String) : '&' ∉ (encodePair pair).toList := by
  intro h
  rw [toList_encodePair, List.mem_append, List.mem_cons] at h
  rcases h with hkey | heq | hvalue
  · exact (separates_of_mem_encodeFormPart hkey).1 rfl
  · exact absurd heq (by decide)
  · exact (separates_of_mem_encodeFormPart hvalue).1 rfl

/-- **A form is read back pair for pair.** -/
theorem readForm?_writeForm (pairs : List (String × String)) :
    readForm? (writeForm pairs).toList = some pairs := by
  by_cases hne : pairs = []
  · subst hne
    rfl
  let pieces := pairs.map fun pair => (encodePair pair).toList
  have hamp : ∀ piece ∈ pieces, '&' ∉ piece :=
    List.forall_mem_map.mpr fun pair _ => not_mem_encodePair pair
  have hfull : ∀ piece ∈ pieces, (!piece.isEmpty) = true := by
    refine List.forall_mem_map.mpr fun pair _ => ?_
    rw [toList_encodePair]
    simp
  have hpieces : pieces ≠ [] := fun h => hne (List.map_eq_nil_iff.mp h)
  have hwritten : (writeForm pairs).toList = ['&'].intercalate pieces := by
    rw [writeForm, String.toList_intercalate, List.map_map]
    rfl
  rw [readForm?, hwritten, Text.splitChars_intercalate hamp hpieces, List.filter_eq_self.mpr hfull]
  exact mapM_readPair?_encodePair pairs

end PolicyKeeper.Url
