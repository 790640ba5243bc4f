import Mathlib.Data.List.Sort
import Mathlib.Data.String.Basic
import SeriesQuery.Dict

/-!
# Looking up in dictionaries

What `Dict.get?` finds after entries were added, dropped or mapped, and which keys there are then.
Whatever is inserted, the keys go on to grow strictly, so the keys of a dictionary are given by
which they are.
-/

namespace SeriesQuery.Dict

variable {α β : Type}

/-- A key that no entry has is not found. -/
theorem get?_eq_none {d : Dict α} {key : String} (h : key ∉ d.map Prod.fst) :
    get? d key = none := by
  induction d with
  | nil => rfl
  | cons entry rest ih =>
      obtain ⟨k, v⟩ := entry
      simp only [List.map_cons, List.mem_cons, not_or] at h
      rw [get?, if_neg (Ne.symm h.1), ih h.2]

/-- Where keys differ, an entry is found under its key. -/
theorem get?_of_mem {d : Dict α} (hkeys : (d.map Prod.fst).Nodup) {key : String} {value : α}
    (h : (key, value) ∈ d) : get? d key = some value := by
  induction d with
  | nil => cases h
  | cons entry rest ih =>
      obtain ⟨k, v⟩ := entry
      rw [List.map_cons, List.nodup_cons] at hkeys
      rcases List.mem_cons.1 h with heq | hmem
      · cases heq
        exact if_pos rfl
      · have hne : k ≠ key := by
          rintro rfl
          exact hkeys.1 (List.mem_map.2 ⟨_, hmem, rfl⟩)
        rw [get?, if_neg hne, ih hkeys.2 hmem]

/-- What is found under a key is its value in one of the entries. -/
theorem mem_of_get? {d : Dict α} {key : String} {value : α} (h : get? d key = some value) :
    (key, value) ∈ d := by
  induction d with
  | nil => cases h
  | cons entry rest ih =>
      obtain ⟨k, v⟩ := entry
      rw [get?] at h
      by_cases hkey : k = key
      · rw [if_pos hkey] at h
        cases h
        rw [hkey]
        exact List.mem_cons_self
      · rw [if_neg hkey] at h
        exact List.mem_cons_of_mem _ (ih h)

/-- The keys are what is found. -/
theorem isSome_get?_iff {d : Dict α} {key : String} : (get? d key).isSome ↔ key ∈ keys d := by
  induction d with
  | nil => simp [get?, keys]
  | cons entry rest ih =>
      obtain ⟨k, v⟩ := entry
      by_cases h : k = key
      · simp [get?, keys, h]
      · simpa [get?, keys, h, Ne.symm h] using ih

/-- In an overlay the upper dictionary comes first. -/
theorem get?_overlay {lower upper : Dict α} (hkeys : (upper.map Prod.fst).Nodup) (key : String) :
    get? (overlay lower upper) key = (get? upper key).or (get? lower key) := by
  induction upper generalizing lower with
  | nil => rfl
  | cons entry rest ih =>
      obtain ⟨k, v⟩ := entry
      rw [List.map_cons, List.nodup_cons] at hkeys
      have hstep : overlay lower ((k, v) :: rest) = overlay (insert lower k v) rest := rfl
      rw [hstep, ih hkeys.2, get?_insert, get?]
      by_cases h : k = key
      · subst h
        simp [get?_eq_none hkeys.1]
      · simp [h]

/-- The first entry of a key is what is found under it. -/
theorem get?_eq_some_iff {d : Dict α} {key : String} {value : α} :
    get? d key = some value ↔
      ∃ before after, d = before ++ (key, value) :: after ∧ ∀ entry ∈ before, entry.1 ≠ key := by
  induction d with
  | nil => simp [get?]
  | cons entry rest ih =>
      obtain ⟨k, v⟩ := entry
      rw [get?]
      by_cases h : k = key
      · subst h
        rw [if_pos rfl]
        constructor
        · rintro ⟨⟩
          exact ⟨[], rest, rfl, by simp⟩
        · rintro ⟨before, after, heq, hbefore⟩
          cases before with
          | nil => simp_all
          | cons first before =>
              obtain ⟨rfl, -⟩ := List.cons.inj heq
              exact absurd rfl (hbefore _ List.mem_cons_self)
      · rw [if_neg h, ih]
        constructor
        · rintro ⟨before, after, rfl, hbefore⟩
          exact ⟨(k, v) :: before, after, rfl, List.forall_mem_cons.2 ⟨h, hbefore⟩⟩
        · rintro ⟨before, after, heq, hbefore⟩
          cases before with
          | nil =>
              obtain ⟨hentry, -⟩ := List.cons.inj heq
              exact absurd (congrArg Prod.fst hentry) h
          | cons first before =>
              obtain ⟨rfl, hrest⟩ := List.cons.inj heq
              exact ⟨before, after, hrest, (List.forall_mem_cons.1 hbefore).2⟩

/-- What comes first is looked up first. -/
theorem get?_append (d d' : Dict α) (key : String) :
    get? (d ++ d') key = (get? d key).or (get? d' key) := by
  induction d with
  | nil => rfl
  | cons entry rest ih =>
      obtain ⟨k, v⟩ := entry
      rw [List.cons_append, get?, get?, ih]
      by_cases h : k = key
      · rw [if_pos h, if_pos h, Option.some_or]
      · rw [if_neg h, if_neg h]

/-- Whatever keys they have, of the entries that are laid over a dictionary the last one of a key is
found. -/
theorem get?_overlay_reverse (lower : Dict α) (entries : List (String × α)) (key : String) :
    get? (overlay lower entries) key = (get? entries.reverse key).or (get? lower key) := by
  induction entries generalizing lower with
  | nil => rfl
  | cons entry rest ih =>
      obtain ⟨k, v⟩ := entry
      have hstep : overlay lower ((k, v) :: rest) = overlay (insert lower k v) rest := rfl
      rw [hstep, ih, get?_insert, List.reverse_cons, get?_append, Option.or_assoc, get?]
      by_cases h : k = key
      · rw [if_pos h, if_pos h, Option.some_or]
      · rw [if_neg h, if_neg h, get?, Option.none_or]

/-- Of entries whose keys differ, each is found under its key. -/
theorem get?_ofList {entries : List (String × α)} (hkeys : (entries.map Prod.fst).Nodup)
    {key : String} {value : α} (h : (key, value) ∈ entries) :
    get? (ofList entries) key = some value := by
  have hoverlay : ofList entries = overlay [] entries := rfl
  rw [hoverlay, get?_overlay hkeys, get?_of_mem hkeys h]
  rfl

/-- Entries of keys that are kept are found with their values mapped. -/
theorem get?_filter_map (d : Dict α) (keep : String → Bool) (f : α → β) {key : String}
    (h : keep key = true) :
    get? ((d.filter fun (k, _) => keep k).map fun (k, v) => (k, f v)) key = (get? d key).map f := by
  induction d with
  | nil => rfl
  | cons entry rest ih =>
      obtain ⟨k, v⟩ := entry
      rw [get?]
      by_cases hk : k = key
      · subst hk
        simp [h, get?]
      · cases hkeep : keep k <;> simp [hkeep, hk, get?, ih]

/-- The keys grow strictly. -/
def Ordered (d : Dict α) : Prop := (keys d).Pairwise (· < ·)

/-- Keys that grow strictly differ. -/
theorem Ordered.nodup {d : Dict α} (h : Ordered d) : (keys d).Nodup := h.imp ne_of_lt

/-- An inserted key comes to the keys that are there. -/
theorem mem_keys_insert {d : Dict α} {key k : String} {value : α} :
    k ∈ keys (insert d key value) ↔ k = key ∨ k ∈ keys d := by
  rw [← isSome_get?_iff, get?_insert, ← isSome_get?_iff]
  by_cases h : key = k
  · simp [h]
  · simp [h, Ne.symm h]

/-- A key is inserted where it belongs. -/
theorem ordered_insert {d : Dict α} (h : Ordered d) (key : String) (value : α) :
    Ordered (insert d key value) := by
  induction d with
  | nil => exact List.pairwise_singleton _ _
  | cons entry rest ih =>
      obtain ⟨k, v⟩ := entry
      obtain ⟨hbelow, hrest⟩ := List.pairwise_cons.1 h
      rw [insert]
      split
      · next heq =>
          subst heq
          exact h
      · next hne =>
          split
          · next hlt =>
              refine List.pairwise_cons.2 ⟨fun other hother => ?_, h⟩
              rcases List.mem_cons.1 hother with rfl | hother
              · exact hlt
              · exact hlt.trans (hbelow other hother)
          · next hle =>
              refine List.pairwise_cons.2 ⟨fun other hother => ?_, ih hrest⟩
              rcases mem_keys_insert.1 hother with rfl | hother
              · exact lt_of_le_of_ne (not_lt.1 hle) (Ne.symm hne)
              · exact hbelow other hother

/-- An overlay has the keys of both dictionaries. -/
theorem mem_keys_overlay {lower upper : Dict α} {k : String} :
    k ∈ keys (overlay lower upper) ↔ k ∈ keys upper ∨ k ∈ keys lower := by
  induction upper generalizing lower with
  | nil => simp [overlay, keys]
  | cons entry rest ih =>
      obtain ⟨key, value⟩ := entry
      have hstep : overlay lower ((key, value) :: rest) = overlay (insert lower key value) rest :=
        rfl
      rw [hstep, ih, mem_keys_insert, keys, keys, keys, List.map_cons, List.mem_cons]
      exact or_left_comm.trans or_assoc.symm

/-- An overlay has its keys in order if the lower dictionary has. -/
theorem ordered_overlay {lower : Dict α} (h : Ordered lower) (upper : Dict α) :
    Ordered (overlay lower upper) := by
  induction upper generalizing lower with
  | nil => exact h
  | cons entry rest ih => exact ih (ordered_insert h entry.1 entry.2)

/-- A dictionary has the keys of the entries that it is made of. -/
theorem mem_keys_ofList {entries : List (String × α)} {k : String} :
    k ∈ keys (ofList entries) ↔ k ∈ entries.map Prod.fst := by
  have hoverlay : ofList entries = overlay [] entries := rfl
  rw [hoverlay, mem_keys_overlay]
  simp [keys]

/-- A dictionary that is made of entries has its keys in order. -/
theorem ordered_ofList (entries : List (String × α)) : Ordered (ofList entries) := by
  have hempty : Ordered ([] : Dict α) := List.Pairwise.nil
  exact ordered_overlay hempty entries

/-- Dictionaries in which the same is found under every key are one dictionary. -/
theorem Ordered.eq_of_get? {d d' : Dict α} (h : Ordered d) (h' : Ordered d')
    (hget : ∀ key, get? d key = get? d' key) : d = d' := by
  have hmem : ∀ {d : Dict α}, Ordered d → ∀ entry : String × α,
      entry ∈ d ↔ get? d entry.1 = some entry.2 :=
    fun h entry => ⟨get?_of_mem h.nodup, mem_of_get?⟩
  refine List.Pairwise.eq_of_mem_iff (r := fun a b : String × α => a.1 < b.1) ?_ ?_ fun entry => ?_
  · exact List.pairwise_map.1 h
  · exact List.pairwise_map.1 h'
  · rw [hmem h, hmem h', hget]

/-- Of the entries that a dictionary is made of the last one of a key is found. -/
theorem get?_ofList_reverse (entries : List (String × α)) (key : String) :
    get? (ofList entries) key = get? entries.reverse key :=
  (get?_overlay_reverse [] entries key).trans Option.or_none

/-- An entry whose key does not come again is found. -/
theorem get?_ofList_last {key : String} {after : List (String × α)}
    (h : key ∉ after.map Prod.fst) (before : List (String × α)) (value : α) :
    get? (ofList (before ++ (key, value) :: after)) key = some value := by
  have hafter : get? after.reverse key = none := by
    refine get?_eq_none ?_
    rw [List.map_reverse, List.mem_reverse]
    exact h
  rw [get?_ofList_reverse, List.reverse_append, List.reverse_cons, get?_append, get?_append,
    hafter, Option.none_or, get?, if_pos rfl, Option.some_or]

/-- An entry whose key comes again later does not count. -/
theorem ofList_overwritten {key : String} {after : List (String × α)}
    (h : key ∈ after.map Prod.fst) (before : List (String × α)) (value : α) :
    ofList (before ++ (key, value) :: after) = ofList (before ++ after) := by
  refine (ordered_ofList _).eq_of_get? (ordered_ofList _) fun other => ?_
  rw [get?_ofList_reverse, get?_ofList_reverse, List.reverse_append, List.reverse_cons,
    List.reverse_append, get?_append, get?_append, get?_append, Option.or_assoc]
  by_cases hother : key = other
  · -- the later entry is found, so the earlier one is not looked at
    have hsome : (get? after.reverse other).isSome := by
      rw [isSome_get?_iff, keys, List.map_reverse, List.mem_reverse, ← hother]
      exact h
    obtain ⟨later, hlater⟩ := Option.isSome_iff_exists.1 hsome
    rw [hlater, Option.some_or, Option.some_or]
  · rw [get?, if_neg hother, get?, Option.none_or]

end SeriesQuery.Dict
