import Jukebox.Proofs.Http.Percent
import Mathlib.Data.Bool.AllAny
import Mathlib.Data.List.TakeWhile

/-!
# Where a URL leads

A name is put behind a base whose path is in its normal form (`HasPath`), and the URL is asked for.  Blanks at the end
of the name and what follows a number sign are not sent (`shown`), what follows a question mark is no part of the path
(`inPath`), and of the rest slashes make segments, of which those that are dots vanish (`reached`):

    the target for base/name is written (reached path name), and a query if there is one        (ofUrl_base)

So a name leads behind the base as one segment that is decoded as the name (`Leads`) only if all of it is sent, there
are no slashes or escapes in it, and it is not dots.  That these are the only names is shown by counting bytes: the
segment is what is left of the name, and decoding does not make it longer, so that nothing may be missing
(`inPath_eq_of_decode`).

    Leads path name (ofUrl base/name) ↔ IsPlain name                                             (leads_iff)

With two dots in front, a name leads to any path beside the last segment of the base (`ofUrl_twoDots`).
-/

namespace Jukebox.Http.Target

open Text.Percent

/-! ## Characters of a path -/

/-- Besides blanks and characters beyond ASCII, these are escaped in a path. -/
def unsafeMarks : List Char :=
  ['"', '#', '<', '>', '?', '^', '\x60', '\x7b', '\x7d']

theorem isPathSafe_iff {c : Char} : isPathSafe c = true ↔ 0x20 < c.toNat ∧ c.toNat < 0x7f ∧ c ∉ unsafeMarks := by
  have hmarks : "\"#<>?^\x60\x7b\x7d".contains c = decide (c ∈ unsafeMarks) := String.contains_char_eq
  unfold isPathSafe
  rw [hmarks]
  simp [and_assoc]

theorem escaped_of_not_isPathSafe {c : Char} (h : isPathSafe c = false) : c ≠ '%' ∧ Text.Hex.value? c = none := by
  have hno : ¬ isPathSafe c = true := Bool.eq_false_iff.1 h
  constructor
  · rintro rfl
    exact hno (isPathSafe_iff.2 (by decide))
  · by_contra hdigit
    have hmarks : ∀ x ∈ unsafeMarks, Text.Hex.value? x = none := List.all_iff_forall_prop.1 (by decide)
    refine hno (isPathSafe_iff.2 ?_)
    have hbounds : 0x20 < c.toNat ∧ c.toNat < 0x7f := by
      have hle : ∀ {a b : Char}, a ≤ b → a.toNat ≤ b.toNat := fun h => h
      unfold Text.Hex.value? at hdigit
      split at hdigit
      · next h => exact ⟨Nat.lt_of_lt_of_le (by decide) (hle h.1), Nat.lt_of_le_of_lt (hle h.2) (by decide)⟩
      · split at hdigit
        · next h => exact ⟨Nat.lt_of_lt_of_le (by decide) (hle h.1), Nat.lt_of_le_of_lt (hle h.2) (by decide)⟩
        · split at hdigit
          · next h => exact ⟨Nat.lt_of_lt_of_le (by decide) (hle h.1), Nat.lt_of_le_of_lt (hle h.2) (by decide)⟩
          · exact absurd rfl hdigit
    exact ⟨hbounds.1, hbounds.2, fun hmem => hdigit (hmarks c hmem)⟩

theorem decode_encode_path (cs : List Char) :
    decode (Text.Utf8.encode (encode isPathSafe cs)) = decode (Text.Utf8.encode cs) := by
  refine decode_encode (fun c hc => ?_) (fun c hc => escaped_of_not_isPathSafe hc) cs
  have hbound := (isPathSafe_iff.1 hc).2.1
  omega

/-- A mark that is no part of an escape stands in an encoded text only where it is kept. -/
theorem not_mem_encode {keep : Char → Bool} {mark : Char} {cs : List Char} (hpercent : mark ≠ '%')
    (hdigit : ∀ n < 16, mark ≠ Text.Hex.capitalDigit n) (h : mark ∈ cs → keep mark = false) :
    mark ∉ encode keep cs := by
  intro hmem
  rcases mem_encode hmem with ⟨hmark, hkept⟩ | heq | ⟨n, hn, heq⟩
  · rw [h hmark] at hkept
    cases hkept
  · exact hpercent heq
  · exact hdigit n hn heq

/-- The segment stands for itself in a path. -/
structure IsNormal (segment : List Char) : Prop where
  safe : ∀ c ∈ segment, isPathSafe c = true ∧ c ≠ '/' ∧ c ≠ '\\'
  notDot : isDot segment = false
  notTwoDots : isTwoDots segment = false

/-- A path of these segments. -/
def joined (path : List (List Char)) : List Char :=
  path.flatMap ('/' :: ·)

theorem joined_concat (path : List (List Char)) (segment : List Char) :
    joined (path ++ [segment]) = joined path ++ '/' :: segment := by
  unfold joined
  rw [List.flatMap_append, List.flatMap_singleton]

/-- The text is the URL of a host with this path, which is in its normal form. -/
inductive HasPath : List Char → List (List Char) → Prop
  | mk {scheme host : List Char} {path : List (List Char)} :
    (∀ c ∈ scheme, c ≠ ':' ∧ isMargin c = false) → host ≠ [] →
    (∀ c ∈ host, isMargin c = false ∧ c ∉ ['/', '\\', '?', '#']) → (∀ s ∈ path, IsNormal s) →
    HasPath (scheme ++ "://".toList ++ host ++ joined path) path

/-! ## What is sent of a URL -/

/-- A name as it counts at the end of a URL. -/
def ending (name : List Char) : List Char :=
  ((name.reverse.dropWhile isMargin).reverse).filter fun c => !(c == '\t' || c == '\n' || c == '\r')

theorem dropWhile_append_of_neg {α : Type} {p : α → Bool} {l l' : List α} (h : ∀ x ∈ l'.head?, p x = false) :
    (l ++ l').dropWhile p = l.dropWhile p ++ l' := by
  rw [List.dropWhile_append]
  split
  · next hnil =>
    rw [List.isEmpty_iff.1 hnil, List.nil_append]
    cases l' with
    | nil => rfl
    | cons x l' => exact List.dropWhile_cons_of_neg (by simp [h x rfl])
  · rfl

theorem not_isMargin {c : Char} (h : 0x20 < c.toNat) : isMargin c = false :=
  decide_eq_false (Nat.not_le.2 h)

theorem tidy_append {lead : List Char} (hne : lead ≠ []) (hlead : ∀ c ∈ lead, isMargin c = false) (name : List Char) :
    tidy (lead ++ name) = lead ++ ending name := by
  have hfirst : (lead ++ name).dropWhile isMargin = lead ++ name := by
    obtain ⟨c, lead, rfl⟩ := List.exists_cons_of_ne_nil hne
    exact List.dropWhile_cons_of_neg (by simp [hlead c List.mem_cons_self])
  have hlast : ((lead ++ name).reverse).dropWhile isMargin = name.reverse.dropWhile isMargin ++ lead.reverse := by
    rw [List.reverse_append]
    refine dropWhile_append_of_neg fun c hc => hlead c ?_
    exact List.mem_reverse.1 (List.mem_of_mem_head? hc)
  have hshown : lead.filter (fun c => !(c == '\t' || c == '\n' || c == '\r')) = lead := by
    refine List.filter_eq_self.2 fun c hc => ?_
    have hmargin := hlead c hc
    by_contra hblank
    simp only [Bool.not_eq_true', Bool.not_eq_false, Bool.or_eq_true, beq_iff_eq] at hblank
    rcases hblank with (rfl | rfl) | rfl <;> cases hmargin
  unfold tidy ending
  rw [hfirst]
  simp only []
  rw [hlast, List.reverse_append, List.reverse_reverse, List.filter_append, hshown]

theorem afterHost_of_base {scheme host rest : List Char} (hscheme : ∀ c ∈ scheme, c ≠ ':') (hne : host ≠ [])
    (hhost : ∀ c ∈ host, c ∉ ['/', '\\', '?', '#']) :
    afterHost (scheme ++ "://".toList ++ host ++ '/' :: rest) = '/' :: rest := by
  have hscheme' : ∀ c ∈ scheme, (c != ':') = true := fun c hc => bne_iff_ne.2 (hscheme c hc)
  have hhost' : ∀ c ∈ host, (!(c == '/' || c == '\\' || c == '?' || c == '#')) = true := by
    intro c hc
    have hmarks := hhost c hc
    simp only [List.mem_cons, List.not_mem_nil, or_false, not_or] at hmarks
    simp [hmarks]
  obtain ⟨c, host, rfl⟩ := List.exists_cons_of_ne_nil hne
  have hc := hhost' c List.mem_cons_self
  have hsplit : scheme ++ "://".toList ++ c :: host ++ '/' :: rest =
      scheme ++ ':' :: '/' :: '/' :: (c :: host ++ '/' :: rest) := by
    rw [List.append_assoc, List.append_assoc]
    rfl
  unfold afterHost
  rw [hsplit, List.dropWhile_append_of_pos hscheme', List.dropWhile_cons_of_neg (by decide), List.drop_one,
    List.tail_cons, List.dropWhile_cons_of_pos (by decide), List.dropWhile_cons_of_pos (by decide), List.cons_append,
    List.dropWhile_cons_of_neg (by simp at hc; simp [hc])]
  show List.dropWhile _ (c :: host ++ '/' :: rest) = _
  rw [List.dropWhile_append_of_pos hhost', List.dropWhile_cons_of_neg (by decide)]

/-! ## Paths -/

/-- A name with the slashes that its backslashes count as. -/
def slashed (name : List Char) : List Char :=
  name.map fun c => if c = '\\' then '/' else c

/-- A path is taken apart into its segments. -/
theorem splitAt_joined {path : List (List Char)} (hpath : ∀ s ∈ path, '/' ∉ s) (name : List Char) :
    splitAt '/' (joined path ++ '/' :: name) = [] :: (path ++ splitAt '/' name) := by
  induction path with
  | nil => exact splitAt_cons_mark _ _
  | cons s path ih =>
    obtain ⟨hs, hpath⟩ := List.forall_mem_cons.1 hpath
    have hjoined : joined (s :: path) ++ '/' :: name = '/' :: (s ++ (joined path ++ '/' :: name)) := by
      unfold joined
      rw [List.flatMap_cons, List.cons_append, List.cons_append, List.append_assoc]
    rw [hjoined, splitAt_cons_mark, splitAt_append hs (ih hpath), List.append_nil]
    rfl

theorem follow_cons {rest : List (List Char)} (hrest : rest ≠ []) (back : List (List Char)) (segment : List Char) :
    follow back (segment :: rest) = if isTwoDots segment then follow (back.drop 1) rest
      else if isDot segment then follow back rest else follow (segment :: back) rest := by
  obtain ⟨next, rest, rfl⟩ := List.exists_cons_of_ne_nil hrest
  rfl

theorem follow_singleton {segment : List Char} (hdot : isDot segment = false) (htwo : isTwoDots segment = false)
    (back : List (List Char)) : follow back [segment] = segment :: back := by
  show (if isTwoDots segment then [] :: back.drop 1 else if isDot segment then [] :: back else segment :: back) = _
  rw [hdot, htwo]
  rfl

/-- Segments that stand for themselves are gone through one by one. -/
theorem follow_normal {path names : List (List Char)} (hpath : ∀ s ∈ path, IsNormal s) (hnames : names ≠ [])
    (back : List (List Char)) : follow back (path ++ names) = follow (path.reverse ++ back) names := by
  induction path generalizing back with
  | nil => rfl
  | cons s path ih =>
    obtain ⟨hs, hpath⟩ := List.forall_mem_cons.1 hpath
    have hrest : path ++ names ≠ [] := List.append_ne_nil_of_right_ne_nil _ hnames
    rw [List.cons_append, follow_cons hrest, hs.notTwoDots, hs.notDot, if_neg Bool.false_ne_true,
      if_neg Bool.false_ne_true, ih hpath, List.reverse_cons, List.append_assoc]
    rfl

/-- The last segment comes last, unless it is dots; then the path ends in a slash. -/
theorem follow_last {names : List (List Char)} (hnames : names ≠ []) (back : List (List Char)) :
    ∃ s rest, follow back names = s :: rest ∧ (s = [] ∨ s = names.getLast hnames ∧ isDot s = false ∧
      isTwoDots s = false) := by
  induction names generalizing back with
  | nil => exact absurd rfl hnames
  | cons segment names ih =>
    cases names with
    | nil =>
      show ∃ s rest, (if isTwoDots segment then [] :: back.drop 1
        else if isDot segment then [] :: back else segment :: back) = s :: rest ∧ _
      split
      · exact ⟨_, _, rfl, Or.inl rfl⟩
      · next htwo =>
        split
        · exact ⟨_, _, rfl, Or.inl rfl⟩
        · next hone =>
          exact ⟨_, _, rfl, Or.inr ⟨rfl, Bool.eq_false_iff.2 hone, Bool.eq_false_iff.2 htwo⟩⟩
    | cons next names =>
      rw [follow_cons (List.cons_ne_nil _ _), List.getLast_cons (List.cons_ne_nil _ _)]
      split
      · exact ih _ _
      · split <;> exact ih _ _

/-- The path whose segments are these, the last one first. -/
def written (back : List (List Char)) : List Char :=
  back.reverse.flatMap fun segment => '/' :: encode isPathSafe segment

theorem slash_not_mem_joined {path : List (List Char)} (hpath : ∀ s ∈ path, IsNormal s) :
    (∀ s ∈ path, '/' ∉ s) ∧ ∀ c ∈ joined path, c ≠ '\\' := by
  constructor
  · exact fun s hs hslash => ((hpath s hs).safe _ hslash).2.1 rfl
  · intro c hc
    obtain ⟨s, hs, hc⟩ := List.mem_flatMap.1 hc
    rcases List.mem_cons.1 hc with rfl | hc
    · decide
    · exact ((hpath s hs).safe c hc).2.2

theorem normalPath_joined {path : List (List Char)} (hpath : ∀ s ∈ path, IsNormal s) (name : List Char) :
    normalPath (joined path ++ '/' :: name) = written (follow path.reverse (splitAt '/' (slashed name))) := by
  obtain ⟨hslash, hback⟩ := slash_not_mem_joined hpath
  have hmap : (joined path ++ '/' :: name).map (fun c => if c = '\\' then '/' else c) =
      joined path ++ '/' :: slashed name := by
    rw [List.map_append, List.map_cons, if_neg (by decide)]
    congr 1
    exact (List.map_congr_left fun c hc => if_neg (hback c hc)).trans (List.map_id _)
  have hsegments : segments (joined path ++ '/' :: name) = path ++ splitAt '/' (slashed name) := by
    unfold segments
    simp only [hmap]
    rw [splitAt_joined hslash]
    rfl
  have hnames := splitAt_ne_nil '/' (slashed name)
  obtain ⟨s, rest, hfollow, -⟩ := follow_last hnames path.reverse
  unfold normalPath
  simp only [hsegments, follow_normal hpath hnames, List.append_nil]
  rw [if_neg (by rw [hfollow]; simp)]
  rfl

/-! ## A base and a name -/

/-- What is sent of a name. -/
def shown (name : List Char) : List Char :=
  (ending name).takeWhile (· != '#')

/-- What of a name stands in the path. -/
def inPath (name : List Char) : List Char :=
  (shown name).takeWhile (· != '?')

/-- The segments of the path that a base and a name lead to, the last one first. -/
def reached (path : List (List Char)) (name : List Char) : List (List Char) :=
  follow path.reverse (splitAt '/' (slashed (inPath name)))

theorem mem_joined_bounds {path : List (List Char)} (hpath : ∀ s ∈ path, IsNormal s) {c : Char}
    (hc : c ∈ joined path) : isMargin c = false ∧ c ≠ '#' ∧ c ≠ '?' := by
  obtain ⟨s, hs, hc⟩ := List.mem_flatMap.1 hc
  rcases List.mem_cons.1 hc with rfl | hc
  · decide
  · obtain ⟨hlow, -, hmarks⟩ := isPathSafe_iff.1 ((hpath s hs).safe c hc).1
    refine ⟨not_isMargin hlow, ?_, ?_⟩
    · rintro rfl
      exact hmarks (by decide)
    · rintro rfl
      exact hmarks (by decide)

theorem drop_length_takeWhile (p : Char → Bool) (cs : List Char) :
    cs.drop (cs.takeWhile p).length = cs.dropWhile p := by
  have hsplit : cs.takeWhile p ++ cs.dropWhile p = cs := List.takeWhile_append_dropWhile
  exact (congrArg (List.drop _) hsplit.symm).trans List.drop_left

section
variable {scheme host : List Char} {path : List (List Char)} (hpath : ∀ s ∈ path, IsNormal s) (name : List Char)
include hpath

theorem tidy_base (hscheme : ∀ c ∈ scheme, isMargin c = false) (hhost : ∀ c ∈ host, isMargin c = false) :
    tidy (scheme ++ "://".toList ++ host ++ joined path ++ '/' :: name) =
      scheme ++ "://".toList ++ host ++ (joined path ++ '/' :: ending name) := by
  have hsplit : ∀ cs : List Char, scheme ++ "://".toList ++ host ++ joined path ++ '/' :: cs =
      (scheme ++ "://".toList ++ host ++ joined path ++ ['/']) ++ cs := by simp
  rw [hsplit, tidy_append (by simp), ← hsplit, List.append_assoc _ (joined path)]
  intro c hc
  simp only [List.mem_append, List.mem_singleton] at hc
  rcases hc with (((hc | hc) | hc) | hc) | rfl
  · exact hscheme c hc
  · have hmarks : ∀ x ∈ "://".toList, isMargin x = false := List.all_iff_forall_prop.1 (by decide)
    exact hmarks c hc
  · exact hhost c hc
  · exact (mem_joined_bounds hpath hc).1
  · decide

theorem takeWhile_joined {mark : Char} (hmark : mark = '#' ∨ mark = '?') :
    (joined path ++ '/' :: name).takeWhile (· != mark) = joined path ++ '/' :: name.takeWhile (· != mark) := by
  have hpass : ∀ c ∈ joined path ++ ['/'], (c != mark) = true := by
    intro c hc
    rw [bne_iff_ne]
    rcases List.mem_append.1 hc with hc | hc
    · obtain ⟨-, hnumber, hquestion⟩ := mem_joined_bounds hpath hc
      rcases hmark with rfl | rfl
      · exact hnumber
      · exact hquestion
    · rw [List.mem_singleton.1 hc]
      rcases hmark with rfl | rfl <;> decide
  have htake : ((joined path ++ ['/']) ++ name).takeWhile (· != mark) =
      (joined path ++ ['/']) ++ name.takeWhile (· != mark) := List.takeWhile_append_of_pos hpass
  simpa using htake

end

/-- The target for a base and a name. -/
theorem ofUrl_base {base : List Char} {path : List (List Char)} (hbase : HasPath base path) (name : List Char) :
    ofUrl (String.ofList (base ++ '/' :: name)) =
      match (shown name).dropWhile (· != '?') with
      | [] => String.ofList (written (reached path name))
      | _ :: query => String.ofList (written (reached path name) ++ '?' :: encode isQuerySafe query) := by
  cases hbase with
  | @mk scheme host _ hscheme hne hhost hpath =>
    have hfirst : ∃ rest, joined path ++ '/' :: ending name = '/' :: rest := by
      cases path <;> exact ⟨_, rfl⟩
    obtain ⟨rest, hrest⟩ := hfirst
    have hafter : afterHost (scheme ++ "://".toList ++ host ++ (joined path ++ '/' :: ending name)) =
        joined path ++ '/' :: ending name := by
      rw [hrest]
      exact afterHost_of_base (fun c hc => (hscheme c hc).1) hne fun c hc => (hhost c hc).2
    have hdrop : (joined path ++ '/' :: shown name).drop (joined path ++ '/' :: inPath name).length =
        (shown name).dropWhile (· != '?') := by
      rw [← drop_length_takeWhile, List.length_append, List.drop_append, List.length_cons]
      simp [inPath]
    unfold ofUrl
    rw [String.toList_ofList, tidy_base hpath name (fun c hc => (hscheme c hc).2) fun c hc => (hhost c hc).1, hafter]
    simp only [takeWhile_joined hpath _ (Or.inl rfl), takeWhile_joined hpath _ (Or.inr rfl)]
    show (match (joined path ++ '/' :: shown name).drop (joined path ++ '/' :: inPath name).length with
      | [] => String.ofList (normalPath (joined path ++ '/' :: inPath name))
      | _ :: query => String.ofList (normalPath (joined path ++ '/' :: inPath name) ++
          '?' :: encode isQuerySafe query)) = _
    rw [hdrop, normalPath_joined hpath]
    rfl

/-! ## Names that are one segment -/

/-- The name leads behind the base as one segment, which is decoded as the name, and nothing else. -/
def Leads (path : List (List Char)) (name : List Char) (target : String) : Prop :=
  ∃ segment, target = String.ofList (joined path ++ '/' :: segment) ∧ '/' ∉ segment ∧ '?' ∉ segment ∧
    decode (Text.Utf8.encode segment) = Text.Utf8.encode name

/-- All of the name is sent, and as part of the path. -/
structure IsSent (name : List Char) : Prop where
  marks : ∀ c ∈ name, c ∉ ['?', '#', '\t', '\n', '\r']
  last : ∀ c ∈ name.getLast?, isMargin c = false

/-- Nothing in the name means anything to a URL. -/
structure IsPlain (name : List Char) : Prop extends IsSent name where
  slash : '/' ∉ name
  backslash : '\\' ∉ name
  notDot : isDot name = false
  notTwoDots : isTwoDots name = false
  /-- There are no escapes in it. -/
  unescaped : decode (Text.Utf8.encode name) = Text.Utf8.encode name

theorem written_cons (s : List Char) (back : List (List Char)) :
    written (s :: back) = written back ++ '/' :: encode isPathSafe s := by
  unfold written
  rw [List.reverse_cons, List.flatMap_append, List.flatMap_singleton]

theorem written_reverse {path : List (List Char)} (hpath : ∀ s ∈ path, IsNormal s) :
    written path.reverse = joined path := by
  unfold written joined
  rw [List.reverse_reverse]
  refine List.flatMap_congr fun s hs => ?_
  rw [encode_eq_self fun c hc => ((hpath s hs).safe c hc).1]

/-- Neither blanks nor the marks of a query and a fragment keep anything of a name from being sent. -/
theorem isSent_of_marks {name : List Char} (h : ∀ c ∈ name, isMargin c = false ∧ c ≠ '#' ∧ c ≠ '?') :
    IsSent name := by
  refine ⟨fun c hc hmark => ?_, fun c hc => (h c (List.mem_of_getLast? hc)).1⟩
  obtain ⟨hmargin, hnumber, hquestion⟩ := h c hc
  simp only [List.mem_cons, List.not_mem_nil, or_false] at hmark
  rcases hmark with rfl | rfl | rfl | rfl | rfl
  · exact hquestion rfl
  · exact hnumber rfl
  all_goals cases hmargin

theorem IsSent.ending_eq {name : List Char} (h : IsSent name) : ending name = name := by
  have hlast : name.reverse.dropWhile isMargin = name.reverse := by
    have hhead : ∀ c ∈ name.reverse.head?, isMargin c = false := by
      rw [List.head?_reverse]
      exact h.last
    cases hrev : name.reverse with
    | nil => rfl
    | cons c back =>
      rw [hrev] at hhead
      exact List.dropWhile_cons_of_neg (by simp [hhead c rfl])
  unfold ending
  rw [hlast, List.reverse_reverse, List.filter_eq_self]
  intro c hc
  have hmarks := h.marks c hc
  simp only [List.mem_cons, List.not_mem_nil, or_false, not_or] at hmarks
  simp [hmarks]

theorem IsSent.pass {name : List Char} (h : IsSent name) {mark : Char} (hmark : mark ∈ ['?', '#', '\t', '\n', '\r']) :
    ∀ c ∈ name, (c != mark) = true := by
  intro c hc
  rw [bne_iff_ne]
  rintro rfl
  exact h.marks _ hc hmark

theorem IsSent.shown_eq {name : List Char} (h : IsSent name) : shown name = name := by
  unfold shown
  rw [h.ending_eq, List.takeWhile_eq_self_iff]
  exact h.pass (by decide)

theorem IsSent.inPath_eq {name : List Char} (h : IsSent name) : inPath name = name := by
  unfold inPath
  rw [h.shown_eq, List.takeWhile_eq_self_iff]
  exact h.pass (by decide)

theorem IsSent.ofUrl_eq {name base : List Char} (h : IsSent name) {path : List (List Char)} (hbase : HasPath base path) :
    ofUrl (String.ofList (base ++ '/' :: name)) = String.ofList (written (reached path name)) := by
  rw [ofUrl_base hbase, h.shown_eq, List.dropWhile_eq_nil_iff.2 (h.pass (by decide))]

theorem slashed_eq_self {name : List Char} (h : '\\' ∉ name) : slashed name = name := by
  refine (List.map_congr_left fun c hc => if_neg ?_).trans (List.map_id _)
  rintro rfl
  exact h hc

theorem HasPath.normal {base : List Char} {path : List (List Char)} (h : HasPath base path) :
    ∀ s ∈ path, IsNormal s := by
  cases h
  assumption

theorem leads_of_isPlain {base : List Char} {path : List (List Char)} (hbase : HasPath base path)
    {name : List Char} (h : IsPlain name) : Leads path name (ofUrl (String.ofList (base ++ '/' :: name))) := by
  have hreached : reached path name = name :: path.reverse := by
    unfold reached
    rw [h.inPath_eq, slashed_eq_self h.backslash, splitAt_of_not_mem h.slash, follow_singleton h.notDot h.notTwoDots]
  refine ⟨encode isPathSafe name, ?_, ?_, ?_, ?_⟩
  · rw [h.ofUrl_eq hbase, hreached, written_cons, written_reverse hbase.normal]
  · exact not_mem_encode (by decide) (by decide) fun hmem => absurd hmem h.slash
  · exact not_mem_encode (by decide) (by decide) fun hmem => absurd (by decide) (h.marks _ hmem)
  · rw [decode_encode_path, h.unescaped]

/-! ## Only plain names do -/

theorem append_cons_inj {mark : Char} {front front' back back' : List Char} (hback : mark ∉ back)
    (hback' : mark ∉ back') (h : front ++ mark :: back = front' ++ mark :: back') : back = back' := by
  rcases List.append_eq_append_iff.1 h with ⟨mid, -, hmid⟩ | ⟨mid, -, hmid⟩
  · cases mid with
    | nil => exact (List.cons.inj hmid).2
    | cons x mid =>
      refine absurd ?_ hback
      rw [(List.cons.inj hmid).2]
      exact List.mem_append_right _ List.mem_cons_self
  · cases mid with
    | nil => exact (List.cons.inj hmid).2.symm
    | cons x mid =>
      refine absurd ?_ hback'
      rw [(List.cons.inj hmid).2]
      exact List.mem_append_right _ List.mem_cons_self

/-- What is sent of a name is in the name, in its order. -/
theorem ending_sublist (name : List Char) :
    (ending name).Sublist (name.reverse.dropWhile isMargin).reverse ∧
      (name.reverse.dropWhile isMargin).reverse.Sublist name := by
  refine ⟨List.filter_sublist, ?_⟩
  have hback := (List.dropWhile_sublist (l := name.reverse) isMargin).reverse
  rwa [List.reverse_reverse] at hback

/-- A name that stands in the path as it is was sent as a whole. -/
theorem isSent_of_inPath_eq {name : List Char} (h : inPath name = name) : IsSent name := by
  obtain ⟨hfilter, htrim⟩ := ending_sublist name
  have hshown : (inPath name).Sublist (shown name) := List.takeWhile_sublist _
  have hending : (shown name).Sublist (ending name) := List.takeWhile_sublist _
  rw [h] at hshown
  have htrimmed : (name.reverse.dropWhile isMargin).reverse = name :=
    htrim.antisymm (hshown.trans (hending.trans hfilter))
  refine ⟨fun c hc => ?_, fun c hc => ?_⟩
  · have hin : c ∈ inPath name := by
      rw [h]
      exact hc
    have hquestion := List.mem_takeWhile_imp (p := (· != '?')) hin
    have hnumber := List.mem_takeWhile_imp (p := (· != '#')) (hshown.mem hc)
    have hblank := (List.mem_filter.1 (hending.mem (hshown.mem hc))).2
    simp only [Bool.not_eq_true', Bool.or_eq_false_iff, beq_eq_false_iff_ne] at hblank
    simp only [List.mem_cons, List.not_mem_nil, or_false, not_or]
    exact ⟨bne_iff_ne.1 hquestion, bne_iff_ne.1 hnumber, hblank.1.1, hblank.1.2, hblank.2⟩
  · have hhead := List.head?_dropWhile_not isMargin name.reverse
    rw [List.reverse_eq_iff.1 htrimmed, List.head?_reverse, Option.mem_def.1 hc] at hhead
    exact hhead

theorem isPlain_nil : IsPlain [] :=
  ⟨⟨nofun, nofun⟩, List.not_mem_nil, List.not_mem_nil, rfl, rfl, rfl⟩

theorem length_encode_slashed (name : List Char) :
    (Text.Utf8.encode (slashed name)).length = (Text.Utf8.encode name).length := by
  induction name with
  | nil => rfl
  | cons c name ih =>
    have hc : (String.utf8EncodeChar (if c = '\\' then '/' else c)).length = (String.utf8EncodeChar c).length := by
      split
      · next h => rw [h]; rfl
      · rfl
    show (Text.Utf8.encode ((if c = '\\' then '/' else c) :: slashed name)).length = _
    rw [Text.Utf8.encode_cons, Text.Utf8.encode_cons, List.length_append, List.length_append, hc, ih]

/-- The bytes of the decoded segment are at most those of the name, so that nothing of it can be missing. -/
theorem inPath_eq_of_decode {name s : List Char} (hsub : s.Sublist (slashed (inPath name))) (hslash : '/' ∉ s)
    (hdecode : decode (Text.Utf8.encode s) = Text.Utf8.encode name) :
    s = name ∧ inPath name = name ∧ '\\' ∉ name := by
  have hin : (inPath name).Sublist name :=
    (List.takeWhile_sublist _).trans ((List.takeWhile_sublist _).trans
      ((ending_sublist name).1.trans (ending_sublist name).2))
  have hlong : (Text.Utf8.encode name).length ≤ (Text.Utf8.encode s).length := by
    rw [← hdecode]
    exact length_decode_le _
  have hshort := Text.Utf8.length_encode_le hin
  have hs : s = slashed (inPath name) := by
    refine Text.Utf8.eq_of_sublist hsub ?_
    rw [length_encode_slashed]
    omega
  rw [hs] at hslash
  have hbackslash : '\\' ∉ inPath name := fun hmem => hslash (List.mem_map.2 ⟨_, hmem, rfl⟩)
  rw [slashed_eq_self hbackslash] at hs
  have hall : inPath name = name := by
    refine Text.Utf8.eq_of_sublist hin ?_
    rw [← hs]
    exact hlong
  rw [hall] at hs hbackslash
  exact ⟨hs, hall, hbackslash⟩

theorem isPlain_of_leads {base : List Char} {path : List (List Char)} (hbase : HasPath base path)
    {name : List Char} (h : Leads path name (ofUrl (String.ofList (base ++ '/' :: name)))) : IsPlain name := by
  obtain ⟨segment, htarget, hslash, hquestion, hdecode⟩ := h
  have hnames := splitAt_ne_nil '/' (slashed (inPath name))
  obtain ⟨s, rest, hfollow, hlast⟩ := follow_last hnames path.reverse
  have hreached : reached path name = s :: rest := hfollow
  have hpart := of_mem_splitAt (List.getLast_mem hnames)
  have hno : '/' ∉ s := by
    rcases hlast with rfl | ⟨rfl, -⟩
    · exact List.not_mem_nil
    · exact hpart.2
  -- The target ends in the last segment, which is encoded.
  have hsegment : encode isPathSafe s = segment := by
    have hencoded : '/' ∉ encode isPathSafe s :=
      not_mem_encode (by decide) (by decide) fun hmem => absurd hmem hno
    rw [ofUrl_base hbase, hreached, written_cons] at htarget
    split at htarget
    · exact append_cons_inj hencoded hslash (String.ofList_injective htarget)
    · refine absurd ?_ hquestion
      have hmem : '?' ∈ joined path ++ '/' :: segment := by
        rw [← String.ofList_injective htarget]
        exact List.mem_append_right _ List.mem_cons_self
      rcases List.mem_append.1 hmem with hmem | hmem
      · exact absurd rfl (mem_joined_bounds hbase.normal hmem).2.2
      · exact (List.mem_cons.1 hmem).resolve_left (by decide)
  rw [← hsegment, decode_encode_path] at hdecode
  rcases hlast with rfl | ⟨rfl, hdot, htwo⟩
  · have hempty : name = [] := Text.Utf8.encode_inj.1 hdecode.symm
    rw [hempty]
    exact isPlain_nil
  · obtain ⟨hs, hall, hbackslash⟩ := inPath_eq_of_decode hpart.1 hno hdecode
    rw [hs] at hno hdot htwo hdecode
    exact ⟨isSent_of_inPath_eq hall, hno, hbackslash, hdot, htwo, hdecode⟩

/-- A name leads behind the base as one segment that is decoded as the name exactly if it is plain. -/
theorem leads_iff {base : List Char} {path : List (List Char)} (hbase : HasPath base path) (name : List Char) :
    Leads path name (ofUrl (String.ofList (base ++ '/' :: name))) ↔ IsPlain name :=
  ⟨isPlain_of_leads hbase, leads_of_isPlain hbase⟩

/-- Where two names lead to one target in this way, they are the same. -/
theorem Leads.name_eq {path : List (List Char)} {name name' : List Char} {target : String}
    (h : Leads path name target) (h' : Leads path name' target) : name = name' := by
  obtain ⟨segment, htarget, hslash, -, hdecode⟩ := h
  obtain ⟨segment', htarget', hslash', -, hdecode'⟩ := h'
  have hsame : segment = segment' :=
    append_cons_inj hslash hslash' (String.ofList_injective (htarget.symm.trans htarget'))
  rw [← hsame, hdecode] at hdecode'
  exact Text.Utf8.encode_inj.1 hdecode'

/-! ## Names that lead elsewhere -/

/-- What is not shown of a name makes no difference. -/
theorem ofUrl_congr {base name name' : List Char} {path : List (List Char)} (hbase : HasPath base path)
    (h : shown name = shown name') :
    ofUrl (String.ofList (base ++ '/' :: name)) = ofUrl (String.ofList (base ++ '/' :: name')) := by
  have hreached : reached path name = reached path name' := by
    unfold reached inPath
    rw [h]
  rw [ofUrl_base hbase, ofUrl_base hbase, h, hreached]

/-- Behind two dots, a name leads to any other path instead of the last segment of the base. -/
theorem ofUrl_twoDots {base segment last : List Char} {path others : List (List Char)}
    (hbase : HasPath base (path ++ [segment])) (hothers : ∀ s ∈ others ++ [last], IsNormal s) :
    ofUrl (String.ofList (base ++ '/' :: ("..".toList ++ joined (others ++ [last])))) =
      String.ofList (joined (path ++ others ++ [last])) := by
  obtain ⟨hnormal, hlast⟩ := List.forall_mem_append.1 hothers
  have hlast : IsNormal last := hlast last List.mem_cons_self
  have hmarks : ∀ c ∈ "..".toList ++ joined (others ++ [last]),
      (isMargin c = false ∧ c ≠ '#' ∧ c ≠ '?') ∧ c ≠ '\\' := by
    intro c hc
    rcases List.mem_append.1 hc with hc | hc
    · have hdots : ∀ c ∈ "..".toList, (isMargin c = false ∧ c ≠ '#' ∧ c ≠ '?') ∧ c ≠ '\\' :=
        List.all_iff_forall_prop.1 (by decide)
      exact hdots c hc
    · exact ⟨mem_joined_bounds hothers hc, (slash_not_mem_joined hothers).2 c hc⟩
  have hsent : IsSent ("..".toList ++ joined (others ++ [last])) := isSent_of_marks fun c hc => (hmarks c hc).1
  have hslash : '/' ∉ last := fun hmem => (hlast.safe _ hmem).2.1 rfl
  have hsplit : splitAt '/' ("..".toList ++ joined (others ++ [last])) = "..".toList :: (others ++ [last]) := by
    have hothers := splitAt_joined (slash_not_mem_joined hnormal).1 last
    rw [splitAt_of_not_mem hslash] at hothers
    rw [joined_concat]
    exact splitAt_append (by decide) hothers
  have hreached : reached (path ++ [segment]) ("..".toList ++ joined (others ++ [last])) =
      (path ++ others ++ [last]).reverse := by
    unfold reached
    rw [hsent.inPath_eq, slashed_eq_self fun hmem => (hmarks _ hmem).2 rfl, hsplit,
      follow_cons (List.append_ne_nil_of_right_ne_nil _ (List.cons_ne_nil _ _)), if_pos (by decide),
      follow_normal hnormal (List.cons_ne_nil _ _), follow_singleton hlast.notDot hlast.notTwoDots]
    simp
  rw [hsent.ofUrl_eq hbase, hreached, written_reverse]
  rw [List.append_assoc]
  exact List.forall_mem_append.2 ⟨(List.forall_mem_append.1 hbase.normal).1, hothers⟩

end Jukebox.Http.Target
