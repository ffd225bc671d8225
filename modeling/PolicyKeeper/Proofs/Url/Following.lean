import Mathlib.Data.List.TakeWhile
import PolicyKeeper.Proofs.Url.Encoding
import PolicyKeeper.Url.Basic

/-!
# Where a path leads

Segments that are followed from a place are put behind it, unless they are dots. A dot may be
written as an escape, but whatever is written for dots decodes to dots, so an escaped name is
followed like dots exactly if the name itself is `.` or `..`, and any other name stays where it was
put.

A URL that was read has segments with neither slash, question mark nor number sign, so its path as a
text says where each segment ends and where the path does. And as long as segments have nothing in
them that is read in another way, to follow them joined by slashes is to follow one after the other.
-/

namespace PolicyKeeper.Url

variable {base segs : List String} {s last name : String} {c d : Char} {cs rest : List Char}
  {u : Url}

/-! ## Dots -/

/-- A character in small letters was written like that, or as a capital. -/
theorem eq_or_of_toLower_eq (h : c.toLower = d) :
    c = d ∨ 65 ≤ c.toNat ∧ c.toNat ≤ 90 ∧ d.toNat = c.toNat + 32 := by
  delta Char.toLower at h
  split at h
  · rename_i hcapital
    have hlow : 65 ≤ c.toNat := hcapital.1
    have hhigh : c.toNat ≤ 90 := hcapital.2
    refine .inr ⟨hlow, hhigh, ?_⟩
    rw [← h]
    change (c.val + 32).toNat = c.toNat + 32
    rw [UInt32.toNat_add]
    exact Nat.mod_eq_of_lt (by change c.toNat + 32 < _; omega)
  · exact .inl h

theorem eq_of_toLower_eq (h : c.toLower = d) (hd : d.toNat < 97) : c = d :=
  (eq_or_of_toLower_eq h).resolve_right fun hcapital => by omega

/-- A dot, in small letters: as it is, or as an escape. -/
def IsDot (cs : List Char) : Prop := cs = ['.'] ∨ cs = ['%', '2', 'e']

theorem decodeBytes_of_isDot (h : IsDot (cs.map Char.toLower)) (rest : List Char) :
    decodeBytes (cs ++ rest) = 46 :: decodeBytes rest := by
  rcases h with hdot | hescape
  · obtain ⟨c, rfl, hc⟩ := List.map_eq_singleton_iff.mp hdot
    obtain rfl := eq_of_toLower_eq hc (by decide)
    rfl
  · obtain ⟨a, _, rfl, ha, hrest⟩ := List.map_eq_cons_iff.mp hescape
    obtain ⟨b, _, rfl, hb, hrest⟩ := List.map_eq_cons_iff.mp hrest
    obtain ⟨c, rfl, hc⟩ := List.map_eq_singleton_iff.mp hrest
    obtain rfl := eq_of_toLower_eq ha (by decide)
    obtain rfl := eq_of_toLower_eq hb (by decide)
    rcases eq_or_of_toLower_eq hc with rfl | hcapital
    · rfl
    · obtain rfl : c = 'E' := Char.toNat_inj.mp (Nat.add_right_cancel hcapital.2.2.symm)
      rfl

theorem isSingleDot_iff : isSingleDot s = true ↔ IsDot (s.toList.map Char.toLower) := by
  simp [isSingleDot, Text.lowerAscii, ← String.toList_inj, IsDot]

theorem isDoubleDot_iff : isDoubleDot s = true ↔
    ∃ first second, IsDot first ∧ IsDot second ∧ s.toList.map Char.toLower = first ++ second := by
  simp [isDoubleDot, Text.lowerAscii, ← String.toList_inj, IsDot, or_and_right, exists_or,
    or_assoc]

/-- What is written for the place it is at decodes to one dot. -/
theorem decodeBytes_of_isSingleDot (h : isSingleDot s = true) : decodeBytes s.toList = [46] := by
  have hdot := decodeBytes_of_isDot (isSingleDot_iff.mp h) []
  rwa [List.append_nil] at hdot

/-- What is written for the place above decodes to two dots. -/
theorem decodeBytes_of_isDoubleDot (h : isDoubleDot s = true) :
    decodeBytes s.toList = [46, 46] := by
  obtain ⟨_, _, hfirst, hsecond, hs⟩ := isDoubleDot_iff.mp h
  obtain ⟨first, second, hcut, rfl, rfl⟩ := List.map_eq_append_iff.mp hs
  have hlast := decodeBytes_of_isDot hsecond []
  rw [List.append_nil] at hlast
  rw [hcut, decodeBytes_of_isDot hfirst, hlast]
  rfl

theorem eq_of_decodeBytes_encodeName
    (h : decodeBytes (encodeName name).toList = utf8Bytes s.toList) : name = s := by
  have hread := decodeText?_encodeName name
  rw [decodeText?, h, fromUTF8?_utf8Bytes, Option.map_some, String.toList_ofList] at hread
  exact (String.toList_inj.mp (Option.some.inj hread)).symm

theorem isSingleDot_encodeName : isSingleDot (encodeName name) = true ↔ name = "." := by
  constructor
  · intro h
    exact eq_of_decodeBytes_encodeName (s := ".") (decodeBytes_of_isSingleDot h)
  · rintro rfl
    decide

theorem isDoubleDot_encodeName : isDoubleDot (encodeName name) = true ↔ name = ".." := by
  constructor
  · intro h
    exact eq_of_decodeBytes_encodeName (s := "..") (decodeBytes_of_isDoubleDot h)
  · rintro rfl
    decide

/-! ## Following segments -/

/-- A segment that stands for itself. -/
def IsPlain (s : String) : Prop := isSingleDot s = false ∧ isDoubleDot s = false

instance (s : String) : Decidable (IsPlain s) :=
  inferInstanceAs (Decidable (_ ∧ _))

/-- Plain segments are put behind the place one by one, before whatever is last is followed. -/
theorem walk_append (hplain : ∀ s ∈ segs, IsPlain s) (base : List String) (last : String) :
    walk base (segs ++ [last]) = walk (base ++ segs) [last] := by
  induction segs generalizing base with
  | nil => rw [List.nil_append, List.append_nil]
  | cons s segs ih =>
      obtain ⟨hsingle, hdouble⟩ := hplain s List.mem_cons_self
      have hstep : walk base (s :: (segs ++ [last])) = walk (base ++ [s]) (segs ++ [last]) := by
        have hrest : segs ++ [last] ≠ [] := List.concat_ne_nil last segs
        rw [walk, hsingle, hdouble]
        · rfl
        · exact hrest
      rw [List.cons_append, hstep, ih fun s hs => hplain s (List.mem_cons_of_mem _ hs),
        List.append_assoc, List.singleton_append]

/-- A name at the end is put there, but dots lead to the place it would be at, or above. -/
theorem walk_encodeName (base : List String) (name : String) :
    walk base [encodeName name] =
      if name = ".." then above base ++ [""]
      else if name = "." then base ++ [""]
      else base ++ [encodeName name] := by
  rw [walk]
  simp only [isDoubleDot_encodeName, isSingleDot_encodeName]

/-! ## Segments of a URL that was read -/

/-- A text with nothing in it that ends a segment. -/
def IsSegment (s : String) : Prop := ∀ c ∈ s.toList, c ≠ '/' ∧ c ≠ '?' ∧ c ≠ '#'

theorem isSegment_empty : IsSegment "" := fun _ hc => absurd hc List.not_mem_nil

theorem mem_of_mem_above (h : s ∈ above base) : s ∈ base := by
  rw [above] at h
  split at h
  · exact h
  · exact List.dropLast_subset base h

/-- Following segments, one meets no others, but perhaps an empty one at the end. -/
theorem mem_of_mem_walk (h : s ∈ walk base segs) : s ∈ base ∨ s ∈ segs ∨ s = "" := by
  fun_induction walk base segs <;> grind [mem_of_mem_above]

theorem keptInPath_iff {b : UInt8} : keptInPath b = true ↔
    (32 ≤ b.toNat ∧ b.toNat ≤ 126) ∧
      (b.toNat ≠ 32 ∧ b.toNat ≠ 34 ∧ b.toNat ≠ 60 ∧ b.toNat ≠ 62 ∧ b.toNat ≠ 96) ∧
      b.toNat ≠ 35 ∧ b.toNat ≠ 63 ∧ b.toNat ≠ 123 ∧ b.toNat ≠ 125 := by
  simp [keptInPath, keptInFragment, isPrintableByte, isOneOf, UInt8.le_iff_toNat_le,
    @eq_comm _ _ b.toNat, and_assoc]

theorem isSegment_encodeWith {piece : List Char} (h : '/' ∉ piece) :
    IsSegment (encodeWith keptInPath (String.ofList piece)) := by
  intro c hc
  rw [encodeWith, String.toList_ofList, String.toList_ofList] at hc
  refine forall_mem_encodeBytes (P := fun c => c ≠ '/' ∧ c ≠ '?' ∧ c ≠ '#') (by decide) (by decide)
    (fun b hb hkept => ?_) c hc
  rw [keptInPath_iff] at hkept
  have hascii : b.toNat < 128 := by omega
  refine ⟨fun hslash => h ?_, ofNat_ne hascii (by change _ ≠ 63; omega),
    ofNat_ne hascii (by change _ ≠ 35; omega)⟩
  rw [← hslash]
  exact mem_of_mem_utf8Bytes hb hascii

theorem isSegment_of_mem_pathSegments {special : Bool} (h : s ∈ pathSegments special cs) :
    IsSegment s := by
  rw [pathSegments] at h
  obtain ⟨piece, hpiece, rfl⟩ := List.mem_map.mp h
  exact isSegment_encodeWith (Text.not_mem_of_mem_splitChars hpiece)

theorem isSegment_of_mem_walk {special : Bool} (h : s ∈ walk [] (pathSegments special cs)) :
    IsSegment s := by
  rcases mem_of_mem_walk h with hnil | hsegment | rfl
  · exact absurd hnil List.not_mem_nil
  · exact isSegment_of_mem_pathSegments hsegment
  · exact isSegment_empty

theorem isSegment_of_readServed? {scheme : String} (h : readServed? scheme cs = some u) :
    ∀ s ∈ u.segments, IsSegment s := by
  rw [readServed?, Option.bind_eq_bind, Option.bind_eq_some_iff] at h
  obtain ⟨authority, -, h⟩ := h
  obtain rfl := Option.some.inj h
  intro s hs
  change s ∈ ite _ _ _ at hs
  split at hs
  · exact absurd hs List.not_mem_nil
  · exact isSegment_of_mem_walk hs

theorem scheme_of_readFile? (h : readFile? cs = some u) : u.scheme = "file" := by
  simp only [readFile?] at h
  repeat' split at h
  all_goals
    obtain ⟨host, -, h⟩ := Option.bind_eq_some_iff.mp h
    obtain rfl := Option.some.inj h
    rfl

/-- **A URL that was read has segments without separators**, unless it is one of a file. -/
theorem isSegment_of_parse? {text : String} (h : parse? text = some u)
    (hscheme : u.scheme ≠ "file") : ∀ s ∈ u.segments, IsSegment s := by
  rw [parse?, Option.bind_eq_bind, Option.bind_eq_some_iff] at h
  obtain ⟨⟨scheme, rest⟩, -, h⟩ := h
  dsimp only at h
  split at h
  · exact absurd (scheme_of_readFile? h) hscheme
  · split at h
    · exact isSegment_of_readServed? h
    · split at h
      · exact isSegment_of_readServed? h
      · obtain rfl := Option.some.inj h
        exact fun s hs => isSegment_of_mem_walk hs
      · obtain rfl := Option.some.inj h
        exact fun s hs => absurd hs List.not_mem_nil

/-! ## Paths as texts -/

theorem renderSegments_append (front back : List String) :
    renderSegments (front ++ back) = renderSegments front ++ renderSegments back := by
  rw [← String.toList_inj, String.toList_append, renderSegments, renderSegments, renderSegments,
    List.map_append, String.toList_join, String.toList_join, String.toList_join,
    List.flatMap_append]

theorem renderSegments_singleton (s : String) : renderSegments [s] = "/" ++ s := by
  rw [← String.toList_inj, renderSegments, List.map_singleton, String.toList_join,
    List.flatMap_singleton]

/-- The path of a URL as a text, with a slash at its end in any case. -/
def closedPath (u : Url) : String :=
  let path := renderSegments u.segments
  if path.toList.getLast? = some '/' then path else path ++ "/"

theorem segments_closed (u : Url) : u.closed.segments =
    if u.segments.getLast? = some "" then u.segments else u.segments ++ [""] := by
  rw [closed]
  split
  · rfl
  · rfl

/-- A path that was closed ends in an empty segment. -/
theorem segments_closed_eq_concat (u : Url) :
    u.closed.segments = u.closed.segments.dropLast ++ [""] := by
  rw [segments_closed]
  split
  · rename_i hlast
    obtain ⟨front, hfront⟩ := List.getLast?_eq_some_iff.mp hlast
    rw [hfront, List.dropLast_concat]
  · rw [List.dropLast_concat]

theorem toList_renderSegments_concat (front : List String) (s : String) :
    (renderSegments (front ++ [s])).toList = (renderSegments front).toList ++ '/' :: s.toList := by
  rw [renderSegments_append, renderSegments_singleton, String.toList_append, String.toList_append]
  rfl

/-- The text of a path ends in a slash just if the last segment is empty. -/
theorem getLast?_renderSegments_concat (h : IsSegment s) (front : List String) :
    (renderSegments (front ++ [s])).toList.getLast? = some '/' ↔ s = "" := by
  rw [toList_renderSegments_concat]
  rcases List.eq_nil_or_concat s.toList with hnil | ⟨most, c, hconcat⟩
  · rw [hnil, List.getLast?_concat]
    exact iff_of_true rfl (String.toList_eq_nil_iff.mp hnil)
  · rw [List.concat_eq_append] at hconcat
    have hmem : c ∈ s.toList := by
      rw [hconcat]
      exact List.mem_append_right _ List.mem_cons_self
    rw [hconcat, ← List.cons_append, ← List.append_assoc, List.getLast?_concat]
    refine iff_of_false (fun hc => (h c hmem).1 (Option.some.inj hc)) ?_
    rintro rfl
    exact List.not_mem_nil hmem

/-- **Closing a URL closes its path.** -/
theorem renderSegments_closed (h : ∀ s ∈ u.segments, IsSegment s) :
    renderSegments u.closed.segments = u.closedPath := by
  rw [segments_closed, closedPath]
  rcases List.eq_nil_or_concat u.segments with hnil | ⟨front, last, hlast⟩
  · rw [hnil]
    rfl
  rw [List.concat_eq_append] at hlast
  have hsegment : IsSegment last := h last (by rw [hlast]; simp)
  rw [hlast, List.getLast?_concat]
  by_cases hempty : last = ""
  · rw [if_pos (congrArg some hempty),
      if_pos ((getLast?_renderSegments_concat hsegment front).mpr hempty)]
  · rw [if_neg fun hsome => hempty (Option.some.inj hsome),
      if_neg fun hslash => hempty ((getLast?_renderSegments_concat hsegment front).mp hslash),
      renderSegments_append _ [""], renderSegments_singleton]
    rfl

/-! ## Following a text -/

/-- The URL that a text leads to, if the text has no scheme and starts with a segment. Texts that
start otherwise, with a slash for instance, are not followed here. -/
def follow? (u : Url) (reference : String) : Option Url :=
  let special := isSpecial u.scheme
  let cs := stripped reference
  match readScheme? cs, cs with
  | none, c :: _ =>
    if c = '/' ∨ c = '\\' ∨ c = '?' ∨ c = '#' then none
    else
      let tail := Tail.ofChars special cs
      some { u with
        path := .segments (walk u.segments.dropLast (pathSegments special tail.path))
        query := tail.query, fragment := tail.fragment }
  | _, _ => none

/-- A character that is read in a path as it is written, and does not end a segment. -/
def IsLiteral (c : Char) : Prop :=
  c.toNat < 128 ∧ keptInPath (UInt8.ofNat c.toNat) = true ∧ c ≠ '/' ∧ c ≠ '\\' ∧ c ≠ ':'

instance (c : Char) : Decidable (IsLiteral c) :=
  inferInstanceAs (Decidable (_ ∧ _))

theorem isLiteral_of_mem_encodeName (h : c ∈ (encodeName name).toList) : IsLiteral c := by
  rw [encodeName, encodeWith, String.toList_ofList] at h
  refine forall_mem_encodeBytes (by decide) (by decide) (fun b _ hkept => ?_) c h
  have hascii := (legible_keptInName b hkept).1
  rw [keptInName_iff, isWordByte_iff] at hkept
  refine ⟨by rwa [toNat_ofNat_ascii hascii], ?_, ofNat_ne hascii (by change _ ≠ 47; omega),
    ofNat_ne hascii (by change _ ≠ 92; omega), ofNat_ne hascii (by change _ ≠ 58; omega)⟩
  rw [toNat_ofNat_ascii hascii, UInt8.ofNat_toNat, keptInPath_iff]
  omega

theorem dropWhile_eq_self {p : Char → Bool} (h : ∀ c ∈ cs, p c = false) : cs.dropWhile p = cs :=
  List.dropWhile_eq_self_iff.mpr fun _ hp => by
    rw [h _ (List.getElem_mem _)] at hp
    exact Bool.false_ne_true hp

/-- A character of a reference: one of a segment, or the slash between two. -/
def InReference (c : Char) : Prop := IsLiteral c ∨ c = '/'

theorem InReference.visible (h : InReference c) :
    32 < c.toNat ∧ c ≠ ':' ∧ c ≠ '\\' ∧ c ≠ '?' ∧ c ≠ '#' := by
  rcases h with ⟨hascii, hkept, -, hbackslash, hcolon⟩ | rfl
  · have hbyte : (UInt8.ofNat c.toNat).toNat = c.toNat := Nat.mod_eq_of_lt (by omega)
    rw [keptInPath_iff, hbyte] at hkept
    refine ⟨by omega, hcolon, hbackslash, ?_, ?_⟩
    · rintro rfl
      exact hkept.2.2.2.1 rfl
    · rintro rfl
      exact hkept.2.2.1 rfl
  · decide

theorem stripped_eq_self (h : ∀ c ∈ s.toList, InReference c) : stripped s = s.toList := by
  have houter : ∀ c ∈ s.toList, decide (c.toNat ≤ 0x20) = false := fun c hc =>
    decide_eq_false (by have := (h c hc).visible.1; omega)
  have hinner : ∀ c ∈ s.toList, (!(c == '\t' || c == '\n' || c == '\r')) = true := by
    intro c hc
    have hvisible := (h c hc).visible.1
    have hne : ∀ d : Char, d.toNat ≤ 32 → (c == d) = false := by
      intro d hd
      refine beq_false_of_ne ?_
      rintro rfl
      omega
    rw [hne '\t' (by decide), hne '\n' (by decide), hne '\r' (by decide)]
    rfl
  rw [stripped, dropWhile_eq_self houter,
    dropWhile_eq_self fun c hc => houter c (List.mem_reverse.mp hc), List.reverse_reverse,
    List.filter_eq_self.mpr hinner]

theorem readScheme?_eq_none (h : ∀ c ∈ cs, InReference c) : readScheme? cs = none := by
  cases cs with
  | nil => rfl
  | cons c rest =>
      rw [readScheme?]
      split
      · rename_i hcolon
        have hmem : ':' ∈ c :: rest :=
          List.dropWhile_subset _ (by rw [hcolon]; exact List.mem_cons_self)
        exact absurd rfl (h ':' hmem).visible.2.1
      · rfl

theorem tail_ofChars (special : Bool) (h : ∀ c ∈ cs, InReference c) :
    Tail.ofChars special cs = { path := cs, query := none, fragment := none } := by
  have hquestion : ∀ c ∈ cs, (c != '?') = true := fun c hc =>
    bne_iff_ne.mpr (h c hc).visible.2.2.2.1
  have hnumber : ∀ c ∈ cs, (c != '#') = true := fun c hc =>
    bne_iff_ne.mpr (h c hc).visible.2.2.2.2
  rw [Tail.ofChars, List.takeWhile_eq_self_iff.mpr hnumber,
    List.takeWhile_eq_self_iff.mpr hquestion, List.dropWhile_eq_nil_iff.mpr hnumber,
    List.dropWhile_eq_nil_iff.mpr hquestion]
  rfl

/-- Segments of nothing but literal characters. -/
def AreLiteral (segs : List String) : Prop := ∀ s ∈ segs, ∀ c ∈ s.toList, IsLiteral c

instance (segs : List String) : Decidable (AreLiteral segs) :=
  -- Spelled out, so that no instance is found that goes through all characters there are.
  @List.decidableBAll String _ (fun s => @List.decidableBAll Char IsLiteral _ s.toList) segs

theorem AreLiteral.concat (hsegs : AreLiteral segs) (hs : ∀ c ∈ s.toList, IsLiteral c) :
    AreLiteral (segs ++ [s]) := by
  intro segment hsegment
  rcases List.mem_append.mp hsegment with hfront | hlast
  · exact hsegs segment hfront
  · rw [List.mem_singleton.mp hlast]
    exact hs

theorem AreLiteral.isSegment (hsegs : AreLiteral segs) : ∀ s ∈ segs, IsSegment s := by
  intro s hs c hc
  have hliteral := hsegs s hs c hc
  have hvisible := InReference.visible (.inl hliteral)
  exact ⟨hliteral.2.2.1, hvisible.2.2.2⟩

section Reference

/-! A reference is made of literal segments, the first of which is not empty. -/

variable (hsegs : AreLiteral segs) (hfirst : segs.head? = some s) (hs : s ≠ "")

include hsegs in
theorem inReference_of_mem (h : c ∈ (String.intercalate "/" segs).toList) : InReference c := by
  rw [String.toList_intercalate] at h
  rcases Text.mem_intercalate h with hslash | ⟨_, hsegment, hc⟩
  · exact .inr hslash
  · obtain ⟨segment, hmem, rfl⟩ := List.mem_map.mp hsegment
    exact .inl (hsegs segment hmem c hc)

include hsegs hfirst hs in
theorem exists_first :
    ∃ c rest, (String.intercalate "/" segs).toList = c :: rest ∧ IsLiteral c := by
  obtain ⟨segs, rfl⟩ := List.head?_eq_some_iff.mp hfirst
  cases hchars : s.toList with
  | nil => exact absurd (String.toList_eq_nil_iff.mp hchars) hs
  | cons c rest =>
      have hmem : c ∈ s.toList := by
        rw [hchars]
        exact List.mem_cons_self
      have hc : IsLiteral c := hsegs s List.mem_cons_self c hmem
      rw [String.toList_intercalate, List.map_cons, hchars]
      cases segs with
      | nil => exact ⟨c, rest, by rw [List.map_nil, List.intercalate_singleton], hc⟩
      | cons next segs =>
          rw [List.map_cons, List.intercalate_cons_cons]
          exact ⟨c, _, rfl, hc⟩

include hsegs hfirst hs in
theorem pathSegments_intercalate (special : Bool) :
    pathSegments special (String.intercalate "/" segs).toList = segs := by
  have hin := fun c => inReference_of_mem (c := c) hsegs
  obtain ⟨c, rest, hcs, hc⟩ := exists_first hsegs hfirst hs
  have hslashes : ((String.intercalate "/" segs).toList.map fun c => if c = '\\' then '/' else c) =
      (String.intercalate "/" segs).toList := by
    refine (List.map_congr_left fun c hc => ?_).trans (List.map_id _)
    exact if_neg (hin c hc).visible.2.2.1
  have hpieces : Text.splitChars '/' (String.intercalate "/" segs).toList =
      segs.map String.toList := by
    rw [String.toList_intercalate]
    refine Text.splitChars_intercalate (List.forall_mem_map.mpr fun s hs hslash => ?_) ?_
    · exact (hsegs s hs '/' hslash).2.2.1 rfl
    · rintro hnil
      rw [List.map_eq_nil_iff.mp hnil] at hfirst
      exact absurd hfirst.symm (Option.some_ne_none s)
  have hwritten : ∀ s ∈ segs, encodeWith keptInPath (String.ofList s.toList) = s := by
    intro s hs
    rw [encodeWith, String.toList_ofList,
      encodeBytes_eq_self fun c hc => ⟨(hsegs s hs c hc).1, (hsegs s hs c hc).2.1⟩,
      String.ofList_toList]
  rw [pathSegments, hslashes, ite_self, hcs]
  split
  · rename_i hslash
    exact absurd (List.cons.inj hslash).1 hc.2.2.1
  · rw [← hcs, hpieces, List.map_map]
    exact (List.map_congr_left hwritten).trans (List.map_id _)

include hsegs hfirst hs in
/-- **Segments joined by slashes are followed one by one.** -/
theorem follow?_intercalate (u : Url) :
    u.follow? (String.intercalate "/" segs) = some (u.resolve segs) := by
  have hin := fun c => inReference_of_mem (c := c) hsegs
  have hsegments := pathSegments_intercalate hsegs hfirst hs (isSpecial u.scheme)
  obtain ⟨c, rest, hcs, hc⟩ := exists_first hsegs hfirst hs
  have hvisible := InReference.visible (.inl hc)
  have hstart : ¬ (c = '/' ∨ c = '\\' ∨ c = '?' ∨ c = '#') := by
    rintro (h | h | h | h)
    · exact hc.2.2.1 h
    · exact hvisible.2.2.1 h
    · exact hvisible.2.2.2.1 h
    · exact hvisible.2.2.2.2 h
  rw [follow?, stripped_eq_self hin, readScheme?_eq_none hin, tail_ofChars _ hin]
  dsimp only
  rw [hsegments, hcs]
  dsimp only
  rw [if_neg hstart]
  rfl

end Reference

end PolicyKeeper.Url
