import ClusterCost.Proofs.Outcome
import ClusterCost.Proofs.Url.Form
import ClusterCost.Url.Parse
import Mathlib.Data.List.Basic

/-!
# Paths of web addresses

The path of a web address is a list of names in which nothing stands that would end a name or the
path (`exists_names_of_parse`). So a path that is completed ends with an empty name, in place of
which others are put below it (`child_complete`).
-/

namespace ClusterCost

/-! ### Escaped texts -/

namespace Percent

/-- What stands in an encoded text belongs to an escape or stood in the text before. -/
lemma mem_encode {set : EscapeSet} {s : String} {c : Char} (h : c ∈ (encode set s).toList) :
    c ∈ escapeChars ∨ c ∈ s.toList ∧ set (.ofNat c.toNat) = false := by
  rw [encode, String.toList_ofList, Utf8.encode_eq_flatMap, List.flatMap_assoc,
    List.mem_flatMap] at h
  obtain ⟨d, hd, h⟩ := h
  obtain ⟨b, hb, h⟩ := List.mem_flatMap.mp h
  rw [encodeByte] at h
  split_ifs at h with hset
  · exact .inl (mem_escapeChars c h)
  · right
    simp only [Bool.or_eq_true, decide_eq_true_eq, not_or, UInt8.le_iff_toNat_le, UInt8.reduceToNat,
      Bool.not_eq_true] at hset
    obtain ⟨hlow, hset⟩ := hset
    rcases Utf8.encodeChar_cases d with ⟨hascii, heq⟩ | ⟨-, hall⟩
    · rw [heq, List.mem_singleton] at hb
      rw [List.mem_singleton, hb, Utf8.toNat_ofNat (by omega), Char.ofNat_toNat] at h
      subst h
      exact ⟨hd, hb ▸ hset⟩
    · exact absurd (hall b hb) hlow

end Percent

namespace Url

/-! ### Names -/

/-- No character of the name would end it, or the path. -/
def IsName (name : String) : Prop := ∀ c ∈ name.toList, c ≠ '/' ∧ c ≠ '?' ∧ c ≠ '#'

lemma isName_empty : IsName "" := fun _ h => nomatch h

lemma isName_encode {segment : String} (h : '/' ∉ segment.toList) :
    IsName (Percent.encode Percent.path segment) := by
  intro c hc
  rcases Percent.mem_encode hc with hescape | ⟨hmem, hset⟩
  · have hall : ∀ c ∈ Percent.escapeChars, c ≠ '/' ∧ c ≠ '?' ∧ c ≠ '#' :=
      List.all_iff_forall_prop.mp (by decide)
    exact hall c hescape
  · refine ⟨ne_of_mem_of_not_mem hmem h, ?_, ?_⟩
    all_goals
      rintro rfl
      exact absurd hset (by decide)

/-- The names of a path of a web address: there is one at least. -/
structure IsPath (names : List String) : Prop where
  ne_nil : names ≠ []
  isName : ∀ name ∈ names, IsName name

/-! ### Reading the path -/

section Reading

variable {usual : Nat} {isLast : Bool} {path : List String} {segment : String}

/-- The path after a segment that names a folder. -/
def settled (isLast : Bool) (path : List String) : List String :=
  if isLast then "" :: path else path

lemma addSegment_web (usual : Nat) (isLast : Bool) (path : List String) (segment : String) :
    addSegment (.web usual) isLast path segment =
      if isDoubleDot segment then settled isLast (path.drop 1)
      else if isSingleDot segment then settled isLast path
      else Percent.encode Percent.path segment :: path := rfl

lemma isName_settled (hpath : ∀ name ∈ path, IsName name) :
    ∀ name ∈ settled isLast path, IsName name := by
  rw [settled]
  split_ifs
  · exact List.forall_mem_cons.mpr ⟨isName_empty, hpath⟩
  · exact hpath

lemma isName_addSegment (hpath : ∀ name ∈ path, IsName name) (h : '/' ∉ segment.toList) :
    ∀ name ∈ addSegment (.web usual) isLast path segment, IsName name := by
  rw [addSegment_web]
  split_ifs
  · apply isName_settled
    intro name hname
    exact hpath name (List.mem_of_mem_drop hname)
  · exact isName_settled hpath
  · exact List.forall_mem_cons.mpr ⟨isName_encode h, hpath⟩

lemma addSegment_last_ne_nil : addSegment (.web usual) true path segment ≠ [] := by
  rw [addSegment_web]
  split_ifs <;> exact List.cons_ne_nil _ _

lemma isPath_addSegments {segments : List String} (hne : segments ≠ [])
    (hpath : ∀ name ∈ path, IsName name) (h : ∀ segment ∈ segments, '/' ∉ segment.toList) :
    IsPath (addSegments (.web usual) path segments) := by
  induction segments generalizing path with
  | nil => exact absurd rfl hne
  | cons segment rest ih =>
    have hnames := @isName_addSegment usual rest.isEmpty _ _ hpath (h segment List.mem_cons_self)
    cases rest with
    | nil => exact ⟨addSegment_last_ne_nil, hnames⟩
    | cons next rest =>
      exact ih (List.cons_ne_nil _ _) hnames fun segment hsegment =>
        h segment (List.mem_cons_of_mem _ hsegment)

lemma not_mem_of_mem_splitOnP {α : Type} {p : α → Bool} {xs part : List α}
    (h : part ∈ xs.splitOnP p) : ∀ x ∈ part, p x = false := by
  induction xs generalizing part with
  | nil => simp_all
  | cons y xs ih =>
    rw [List.splitOnP_cons_eq_if_modifyHead] at h
    split_ifs at h with hy
    · rcases List.mem_cons.mp h with rfl | h
      · simp
      · exact ih h
    · cases hparts : xs.splitOnP p with
      | nil => exact absurd hparts (List.splitOnP_ne_nil p xs)
      | cons first parts =>
        rw [hparts, List.modifyHead_cons] at h
        rw [hparts] at ih
        rcases List.mem_cons.mp h with rfl | h
        · exact List.forall_mem_cons.mpr ⟨by simpa using hy, ih List.mem_cons_self⟩
        · exact ih (List.mem_cons_of_mem _ h)

lemma exists_readSegments (usual : Nat) (cs : List Char) :
    ∃ names, readSegments (.web usual) cs = .segments names ∧ IsPath names := by
  have hpath := @isPath_addSegments usual []
    (splitSegments (.web usual) (cs.takeWhile fun c => !(c == '?' || c == '#')))
    (by simp [splitSegments, List.splitOnP_ne_nil]) (by simp) (by
      intro segment hsegment
      obtain ⟨part, hpart, rfl⟩ := List.mem_map.mp hsegment
      rw [String.toList_ofList]
      intro hslash
      cases not_mem_of_mem_splitOnP hpart '/' hslash)
  exact ⟨_, rfl, by simpa using hpath.ne_nil,
    fun name hname => hpath.isName name (List.mem_reverse.mp hname)⟩

lemma exists_readPath (usual : Nat) (cs : List Char) :
    ∃ names, readPath (.web usual) cs = .segments names ∧ IsPath names := by
  cases cs with
  | nil => exact ⟨[""], rfl, List.cons_ne_nil _ _, by simpa using isName_empty⟩
  | cons c rest =>
    by_cases hslash : SchemeKind.isSlash (.web usual) c
    · rw [readPath, if_pos hslash]
      exact exists_readSegments usual rest
    · rw [readPath, if_neg hslash]
      exact exists_readSegments usual (c :: rest)

end Reading

/-! ### Web addresses -/

def IsWeb (scheme : String) : Prop := scheme = "http" ∨ scheme = "https"

lemma not_isWeb_of_other {scheme : String} (h : SchemeKind.ofName scheme = .other) :
    ¬ IsWeb scheme := by
  rintro (rfl | rfl) <;> cases h

lemma scheme_of_readFile {cs : List Char} {u : Url} (h : readFile cs = .ok u) :
    u.scheme = "file" := by
  unfold readFile at h
  simp only [pure_eq_ok] at h
  split at h
  · split_ifs at h
    · cases h
      rfl
    · obtain ⟨host, -, h⟩ := bind_eq_ok_iff.mp h
      cases h
      rfl
    · cases h
      rfl
  · cases h
    rfl

/-- The path of a web address is one of names. -/
theorem exists_names_of_parse {text : String} {u : Url} (h : parse text = .ok u)
    (hweb : IsWeb u.scheme) : ∃ names, u.path = .segments names ∧ IsPath names := by
  rw [parse] at h
  cases hsplit : splitScheme? (clean text) with
  | none => simp [hsplit] at h
  | some parts =>
    obtain ⟨scheme, rest⟩ := parts
    simp only [hsplit] at h
    cases hkind : SchemeKind.ofName scheme with
    | file =>
      simp only [hkind] at h
      rw [scheme_of_readFile h] at hweb
      exact absurd hweb (by simp [IsWeb])
    | web usual =>
      simp only [hkind] at h
      obtain ⟨⟨authority, rest'⟩, -, h⟩ := bind_eq_ok_iff.mp h
      cases h
      exact exists_readPath usual rest'
    | other =>
      -- all URLs of other schemes keep their scheme, which is none of the web
      have hscheme : u.scheme = scheme := by
        simp only [hkind] at h
        split at h
        · obtain ⟨⟨authority, rest'⟩, -, h⟩ := bind_eq_ok_iff.mp h
          cases h
          rfl
        · cases h
          rfl
        · cases h
          rfl
      exact absurd (hscheme ▸ hweb) (not_isWeb_of_other hkind)

end Url

/-! ### Completing a path -/

namespace UrlPath

lemma write_append (names more : List String) :
    write (.segments (names ++ more)) = write (.segments names) ++ write (.segments more) := by
  rw [write, write, write, List.map_append, String.join_append]

lemma write_singleton (name : String) : write (.segments [name]) = "/" ++ name := by simp [write]

end UrlPath

namespace Url

/-- A path with a slash at its end: the one that is there, or else another. -/
def slashed (path : String) : String :=
  if path.toList.getLast? = some '/' then path else path ++ "/"

/-- A written path ends with a slash exactly if its last name is empty. -/
lemma getLast?_write_iff {front : List String} {last : String} (h : IsName last) :
    (UrlPath.segments (front ++ [last])).write.toList.getLast? = some '/' ↔ last = "" := by
  rw [UrlPath.write_append, UrlPath.write_singleton, String.toList_append, String.toList_append]
  rcases List.eq_nil_or_concat last.toList with hlast | ⟨cs, c, hlast⟩
  · rw [hlast]
    simp [String.toList_eq_nil_iff.mp hlast]
  · have hc : c ≠ '/' := (h c (by simp [hlast])).1
    have hne : last ≠ "" := by
      rintro rfl
      simp at hlast
    rw [hlast, List.concat_eq_append, ← List.append_assoc, ← List.append_assoc,
      List.getLast?_concat]
    simp [hc, hne]

lemma plain_of_mem_write {names : List String} (h : IsPath names) :
    ∀ c ∈ (UrlPath.segments names).write.toList, c ≠ '?' ∧ c ≠ '#' := by
  intro c hc
  rw [UrlPath.write, String.toList_join, List.flatMap_map, List.mem_flatMap] at hc
  obtain ⟨name, hname, hc⟩ := hc
  rw [String.toList_append, List.mem_append] at hc
  rcases hc with hc | hc
  · obtain rfl : c = '/' := by simpa using hc
    decide
  · exact (h.isName name hname c hc).2

/-- A completed path ends with an empty name. It is written with a slash at its end. -/
lemma exists_complete {names : List String} (h : IsPath names) :
    ∃ front, (UrlPath.segments names).complete = .segments (front ++ [""]) ∧
      (UrlPath.segments (front ++ [""])).write = slashed (UrlPath.segments names).write := by
  rcases List.eq_nil_or_concat names with rfl | ⟨front, last, rfl⟩
  · exact absurd rfl h.ne_nil
  · rw [List.concat_eq_append] at h ⊢
    have hends := @getLast?_write_iff front last (h.isName last (by simp))
    rw [UrlPath.complete, slashed, List.getLast?_concat]
    by_cases hlast : last = ""
    · rw [if_pos (congrArg some hlast), if_pos (hends.mpr hlast), hlast]
      exact ⟨front, rfl, rfl⟩
    · rw [if_neg (by simpa using hlast), if_neg (mt hends.mp hlast)]
      refine ⟨front ++ [last], rfl, ?_⟩
      rw [UrlPath.write_append, UrlPath.write_singleton]
      rfl

/-- Names that are put below a completed path are written after its slash. -/
theorem child_complete {u : Url} {names : List String} (hpath : u.path = .segments names)
    (h : IsPath names) (first : String)
    (more : List String) :
    ∃ child, u.complete.child (first :: more) = .ok child ∧ child.scheme = u.scheme ∧
      child.authority = u.authority ∧
      child.path.write = slashed u.path.write ++ first ++ (UrlPath.segments more).write ∧
      child.fragment = none := by
  obtain ⟨front, hcomplete, hwrite⟩ := exists_complete h
  rw [hpath, ← hwrite]
  refine ⟨⟨u.scheme, u.authority, .segments (front ++ first :: more), none, none⟩, ?_, rfl, rfl, ?_,
    rfl⟩
  · simp [child, complete, hpath, hcomplete]
  · show (UrlPath.segments (front ++ ([first] ++ more))).write = _
    rw [UrlPath.write_append, UrlPath.write_append, UrlPath.write_append, UrlPath.write_singleton,
      UrlPath.write_singleton]
    simp [String.append_assoc]

end Url

end ClusterCost
