/-
  ApiMethods.Proofs.MediaTypes
  ────────────────────────────
  **WHICH TEXTS WRITE A MEDIA TYPE, AND IN WHICH ORDER MEDIA TYPES ARE TRIED.**

  Six media types have a kind of their own.  A text WRITES one of them (`Spells`) when it has its
  letters, small or capital, with any white space around them and any parameters behind a semicolon:

      kind        media type                              a text that writes it
      multipart   multipart/form-data                     multipart/form-data; boundary=x
      form        application/x-www-form-urlencoded       application/x-www-form-urlencoded
      json        application/json                        Application/JSON ;charset=utf-8
      plain       text/plain                              text/plain;
      html        text/html                               TEXT/HTML
      xml         application/xml                         application/xml

  The kind of a text is the one that it writes (`of_eq_iff_spells`), and `other` when it writes none.
  The media types of a body are tried in the order of this table, and within a kind in the order of
  declaration: the list that is tried is a permutation of the declared one, sorted by kind, and the
  same as the declared one when only one kind is looked at.
-/
import ApiMethods.Body.Media
import ApiMethods.Proofs.Identifiers

namespace ApiMethods.Body

open Document (Content)

namespace Kind

/-! ## §1. Spellings. -/

/-- The media type of a kind; there is none for what is other. -/
def mediaType? : Kind → Option String
  | .multipart => some "multipart/form-data"
  | .form => some "application/x-www-form-urlencoded"
  | .json => some "application/json"
  | .plain => some "text/plain"
  | .html => some "text/html"
  | .xml => some "application/xml"
  | .other => none

/-- A text writes a media type. -/
inductive Spells (mediaType : String) : List Char → Prop
  | intro {front name back parameters : List Char} :
      (∀ c ∈ front, Text.isBlank c = true) → name.map Char.toLower = mediaType.toList →
      (∀ c ∈ back, Text.isBlank c = true) → (∀ c ∈ parameters.head?, c = ';') →
      Spells mediaType (front ++ name ++ back ++ parameters)

/-- No character of a text is white space, and none begins parameters. -/
def IsBare (cs : List Char) : Prop := ∀ c ∈ cs, Text.isBlank c = false ∧ c ≠ ';'

theorem isBare_mediaType {k : Kind} {mediaType : String} (h : k.mediaType? = some mediaType) :
    IsBare mediaType.toList := by
  have hall : mediaType.toList.all (fun c => !Text.isBlank c && c ≠ ';') = true := by
    cases k <;> cases h <;> decide
  intro c hc
  simpa using List.all_eq_true.mp hall c hc

theorem toLower_of_not_isAlphanum {c : Char} (h : c.isAlphanum = false) : c.toLower = c := by
  unfold Char.toLower
  refine dif_neg fun hupper => ?_
  have hrange : 65 ≤ c.toNat ∧ c.toNat ≤ 90 :=
    ⟨UInt32.le_iff_toNat_le.mp hupper.1, UInt32.le_iff_toNat_le.mp hupper.2⟩
  rw [Name.isAlphanum_iff.mpr (.inr (.inl hrange))] at h
  cases h

/-- What is bare in lower case is bare. -/
theorem isBare_of_map_toLower {cs : List Char} (h : IsBare (cs.map Char.toLower)) : IsBare cs := by
  intro c hc
  have hlower := h c.toLower (List.mem_map_of_mem hc)
  cases halnum : c.isAlphanum with
  | true =>
    refine ⟨Name.isBlank_of_isAlphanum halnum, ?_⟩
    rintro rfl
    revert halnum
    decide
  | false =>
    -- lower case changes letters alone
    rwa [toLower_of_not_isAlphanum halnum] at hlower

/-- The part before the first semicolon. -/
theorem headD_splitOn (sep : Char) (cs : List Char) :
    (Text.splitOn sep cs).headD [] = cs.takeWhile (· ≠ sep) := by
  induction cs with
  | nil => rfl
  | cons c rest ih =>
    by_cases hc : c = sep
    · subst hc
      simp [Text.splitOn]
    · obtain ⟨first, more, hsplit⟩ := List.exists_cons_of_ne_nil (Text.splitOn_ne_nil sep rest)
      rw [hsplit] at ih
      rw [List.takeWhile_cons_of_pos (by simpa using hc), ← ih]
      simp [Text.splitOn, hc, hsplit]

/-- **THE ESSENCE OF A TEXT IS A MEDIA TYPE WHEN THE TEXT WRITES IT**, and only then. -/
theorem essence_eq_iff {mediaType : String} (h : IsBare mediaType.toList) (t : String) :
    essence t = mediaType ↔ Spells mediaType t.toList := by
  have hessence : (essence t).toList
      = (Text.trim (t.toList.takeWhile (· ≠ ';'))).map Char.toLower := by
    unfold essence Text.asciiLower
    rw [String.toList_ofList, String.toList_ofList, headD_splitOn]
  rw [← String.toList_inj, hessence]
  generalize t.toList = cs
  constructor
  · intro hname
    -- before the parameters stands what trimming leaves, with white space around it
    obtain ⟨⟨front, back, hbare, hfront, hback⟩, -, -⟩ :=
      Text.trim_eq_iff.mp (rfl : _ = Text.trim (cs.takeWhile (· ≠ ';')))
    have hparameters : ∀ c ∈ (cs.dropWhile (· ≠ ';')).head?, c = ';' := by
      intro c hc
      have hhead := List.head?_dropWhile_not (· ≠ ';') cs
      rw [Option.mem_def.mp hc] at hhead
      simpa using hhead
    have hspells := Spells.intro hfront hname hback hparameters
    rwa [← hbare, List.takeWhile_append_dropWhile] at hspells
  · rintro ⟨hfront, hname, hback, hparameters⟩
    rename_i front name back parameters
    have hbare : IsBare name := isBare_of_map_toLower (by rwa [hname])
    have hblank : ∀ c, Text.isBlank c = true → c ≠ ';' := by
      rintro c hc rfl
      revert hc
      decide
    have hbefore : ∀ c ∈ front ++ name ++ back, decide (c ≠ ';') = true := by
      intro c hc
      rw [decide_eq_true_eq]
      rcases List.mem_append.mp hc with hc | hc
      · rcases List.mem_append.mp hc with hc | hc
        · exact hblank c (hfront c hc)
        · exact (hbare c hc).2
      · exact hblank c (hback c hc)
    have hnone : parameters.takeWhile (fun c => decide (c ≠ ';')) = [] := by
      cases parameters with
      | nil => rfl
      | cons c rest => exact List.takeWhile_cons_of_neg (by simpa using hparameters c rfl)
    have htrim : Text.trim (front ++ name ++ back) = name :=
      Text.trim_eq_iff.mpr {
        taken := ⟨front, back, rfl, hfront, hback⟩
        head := fun c hc => (hbare c (List.mem_of_mem_head? hc)).1
        last := fun c hc => (hbare c (List.mem_of_getLast? hc)).1 }
    rw [List.takeWhile_append_of_pos hbefore, hnone, List.append_nil, htrim, hname]

/-- The kind of a text by its essence. -/
theorem of_eq_iff_essence {k : Kind} {mediaType : String} (h : k.mediaType? = some mediaType)
    (t : String) : of t = k ↔ essence t = mediaType := by
  constructor
  · rintro rfl
    unfold of at h
    split at h <;> simp_all [mediaType?]
  · intro hessence
    unfold of
    cases k <;> cases h <;> simp only [hessence]

/-- **THE KIND OF A TEXT IS THAT OF THE MEDIA TYPE THAT IT WRITES.** -/
theorem of_eq_iff_spells {k : Kind} {mediaType : String} (h : k.mediaType? = some mediaType)
    (t : String) : of t = k ↔ Spells mediaType t.toList :=
  (of_eq_iff_essence h t).trans (essence_eq_iff (isBare_mediaType h) t)

/-! ## §2. The order. -/

/-- The kinds in the order in which they are tried. -/
def order : List Kind := [.multipart, .form, .json, .plain, .html, .xml, .other]

theorem rank_eq_idxOf (k : Kind) : k.rank = order.idxOf k := by
  cases k <;> rfl

end Kind

section Ranked

variable (c : Content)

theorem rank_trans (a b c : String) (hab : decide ((Kind.of a).rank ≤ (Kind.of b).rank) = true)
    (hbc : decide ((Kind.of b).rank ≤ (Kind.of c).rank) = true) :
    decide ((Kind.of a).rank ≤ (Kind.of c).rank) = true := by
  rw [decide_eq_true_eq] at *
  exact Nat.le_trans hab hbc

theorem rank_total (a b : String) :
    (decide ((Kind.of a).rank ≤ (Kind.of b).rank) || decide ((Kind.of b).rank ≤ (Kind.of a).rank))
      = true := by
  rw [Bool.or_eq_true, decide_eq_true_eq, decide_eq_true_eq]
  exact Nat.le_total _ _

/-- Nothing is lost or added. -/
theorem ranked_perm : (ranked c).Perm c.keys := List.mergeSort_perm _ _

/-- An earlier media type is of an earlier kind, or of the same. -/
theorem pairwise_ranked :
    (ranked c).Pairwise fun t u => (Kind.of t).rank ≤ (Kind.of u).rank := by
  have hsorted := List.pairwise_mergeSort rank_trans rank_total c.keys
  unfold ranked
  simpa only [decide_eq_true_eq] using hsorted

/-- **WITHIN A KIND THE ORDER OF DECLARATION IS KEPT.** -/
theorem filter_ranked (k : Kind) :
    (ranked c).filter (Kind.of · = k) = c.keys.filter (Kind.of · = k) := by
  -- media types of one kind are in order already, so they stand in the same order when all are
  have hequal : (c.keys.filter (Kind.of · = k)).Pairwise fun t u =>
      decide ((Kind.of t).rank ≤ (Kind.of u).rank) = true := by
    refine List.pairwise_filter.mpr (List.pairwise_of_forall fun t u ht hu => ?_)
    refine decide_eq_true (Nat.le_of_eq ?_)
    rw [of_decide_eq_true ht, of_decide_eq_true hu]
  have hsub : (c.keys.filter (Kind.of · = k)).Sublist (ranked c) :=
    List.sublist_mergeSort rank_trans rank_total hequal List.filter_sublist
  have hkept := hsub.filter (Kind.of · = k)
  rw [List.filter_filter] at hkept
  simp only [Bool.and_self] at hkept
  exact (hkept.eq_of_length ((ranked_perm c).filter _).length_eq.symm).symm

end Ranked

end ApiMethods.Body
