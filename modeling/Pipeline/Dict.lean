/-!
# Text-keyed dictionaries

A dictionary holds at most one value for a key and lists its entries in the order of their keys.
Keys are ordered by their characters, which is also the order of their UTF-8 bytes. The entries are
sorted by construction, so two dictionaries that answer every key alike are equal (`Dict.ext_get?`).
-/

namespace Pipeline

/-- Entries in strictly ascending key order. -/
structure Dict (α : Type) where
  entries : List (String × α)
  sorted : entries.Pairwise fun a b => a.1 < b.1

namespace Dict
variable {α : Type}

theorem ext_entries {d e : Dict α} (h : d.entries = e.entries) : d = e := by
  cases d; cases e; cases h; rfl

instance [DecidableEq α] : DecidableEq (Dict α) := fun d e =>
  decidable_of_iff (d.entries = e.entries) ⟨ext_entries, fun h => h ▸ rfl⟩

/-- No key has a value. -/
def empty : Dict α := ⟨[], .nil⟩

instance : EmptyCollection (Dict α) := ⟨empty⟩
instance : Inhabited (Dict α) := ⟨empty⟩

/-- Puts an entry in its place, dropping the entry it replaces. -/
def place (key : String) (value : α) : List (String × α) → List (String × α)
  | [] => [(key, value)]
  | e :: es =>
    if key < e.1 then (key, value) :: e :: es
    else if key = e.1 then (key, value) :: es
    else e :: place key value es

theorem mem_place {key : String} {value : α} {es : List (String × α)} {e : String × α}
    (h : e ∈ place key value es) : e = (key, value) ∨ e ∈ es := by
  induction es with
  | nil => simpa [place] using h
  | cons a es ih =>
    unfold place at h
    split at h
    · simpa using h
    · split at h
      · rcases List.mem_cons.1 h with h | h
        · exact .inl h
        · exact .inr (List.mem_cons_of_mem _ h)
      · rcases List.mem_cons.1 h with h | h
        · exact .inr (by simp [h])
        · exact (ih h).imp_right (List.mem_cons_of_mem _)

theorem sorted_place {key : String} {value : α} {es : List (String × α)}
    (h : es.Pairwise fun a b => a.1 < b.1) :
    (place key value es).Pairwise fun a b => a.1 < b.1 := by
  induction es with
  | nil => simp [place]
  | cons a es ih =>
    obtain ⟨ha, hes⟩ := List.pairwise_cons.1 h
    unfold place
    split
    · rename_i hlt
      refine List.pairwise_cons.2 ⟨fun b hb => ?_, h⟩
      rcases List.mem_cons.1 hb with rfl | hb
      · exact hlt
      · exact String.lt_trans hlt (ha b hb)
    · rename_i hnlt
      split
      · rename_i heq
        exact List.pairwise_cons.2 ⟨fun b hb => by simpa [heq] using ha b hb, hes⟩
      · rename_i hne
        refine List.pairwise_cons.2 ⟨fun b hb => ?_, ih hes⟩
        rcases mem_place hb with rfl | hb
        · rcases String.le_total key a.1 with hle | hle
          · exact absurd (String.le_antisymm hle (String.not_lt.1 hnlt)) hne
          · by_cases hlt : a.1 < key
            · exact hlt
            · exact absurd (String.le_antisymm (String.not_lt.1 hlt) hle) hne
        · exact ha b hb

/-- Gives `key` the value, in place of any it had. -/
def insert (d : Dict α) (key : String) (value : α) : Dict α :=
  ⟨place key value d.entries, sorted_place d.sorted⟩

/-- The value of a key. -/
def get? (d : Dict α) (key : String) : Option α := d.entries.lookup key

/-- Whether a key has a value. -/
def contains (d : Dict α) (key : String) : Bool := (d.get? key).isSome

/-- The number of keys. -/
def size (d : Dict α) : Nat := d.entries.length
def isEmpty (d : Dict α) : Bool := d.entries.isEmpty

/-- The keys with their values, in the order of the keys. -/
def toList (d : Dict α) : List (String × α) := d.entries

def keys (d : Dict α) : List String := d.entries.map (·.1)

/-- Inserts the entries in turn, so the last one for a key wins. -/
def ofList (es : List (String × α)) : Dict α :=
  es.foldl (fun d e => d.insert e.1 e.2) empty

/-- Keeps the dictionary's own value for a key it has already. -/
def insertIfNew (d : Dict α) (key : String) (value : α) : Dict α :=
  if d.contains key then d else d.insert key value

/-- Takes a key away with its value. -/
def erase (d : Dict α) (key : String) : Dict α :=
  ⟨d.entries.filter fun e => e.1 ≠ key, d.sorted.filter _⟩

/-- Takes away all keys but those that pass a test. -/
def filterKeys (d : Dict α) (keep : String → Bool) : Dict α :=
  ⟨d.entries.filter fun e => keep e.1, d.sorted.filter _⟩

@[simp] theorem get?_empty (key : String) : (empty : Dict α).get? key = none := rfl

theorem lookup_cons_eq (a : String × α) (es : List (String × α)) (k : String) :
    (a :: es).lookup k = if k = a.1 then some a.2 else es.lookup k := by
  by_cases h : k = a.1
  · rw [if_pos h, h, List.lookup_cons_self]
  · have hb : (k == a.1) = false := by simpa using h
    rw [if_neg h, List.lookup_cons, hb]

theorem lookup_place (key : String) (value : α) (es : List (String × α)) (k : String) :
    (place key value es).lookup k = if k = key then some value else es.lookup k := by
  induction es with
  | nil => simp [place, lookup_cons_eq]
  | cons a es ih =>
    unfold place
    split
    · simp [lookup_cons_eq]
    · split
      · rename_i heq
        by_cases h : k = key
        · simp [h]
        · have : k ≠ a.1 := fun hk => h (hk.trans heq.symm)
          simp [lookup_cons_eq, h, this]
      · rename_i hne
        by_cases h : k = a.1
        · have : ¬ k = key := fun hk => hne (hk.symm.trans h)
          simp [lookup_cons_eq, h, Ne.symm hne]
        · simp [lookup_cons_eq, h, ih]

theorem lookup_filter (keep : String → Bool) (es : List (String × α)) (k : String) :
    (es.filter fun e => keep e.1).lookup k = if keep k then es.lookup k else none := by
  induction es with
  | nil => simp
  | cons e es ih =>
    by_cases hkeep : keep e.1 = true
    · by_cases hkey : k = e.1
      · simp [hkeep, hkey, lookup_cons_eq]
      · simp [hkeep, hkey, lookup_cons_eq, ih]
    · by_cases hkey : k = e.1
      · rw [hkey] at ih ⊢
        simp [hkeep, ih]
      · simp [hkeep, hkey, lookup_cons_eq, ih]

theorem get?_filterKeys (d : Dict α) (keep : String → Bool) (k : String) :
    (d.filterKeys keep).get? k = if keep k then d.get? k else none :=
  lookup_filter keep d.entries k

@[simp] theorem get?_insert (d : Dict α) (key : String) (value : α) (k : String) :
    (d.insert key value).get? k = if k = key then some value else d.get? k :=
  lookup_place ..

theorem get?_insert_self (d : Dict α) (key : String) (value : α) :
    (d.insert key value).get? key = some value := by simp

theorem get?_insert_of_ne (d : Dict α) {key k : String} (value : α) (h : k ≠ key) :
    (d.insert key value).get? k = d.get? k := by simp [h]

@[simp] theorem contains_empty (key : String) : (empty : Dict α).contains key = false := rfl

@[simp] theorem contains_insert (d : Dict α) (key : String) (value : α) (k : String) :
    (d.insert key value).contains k = (decide (k = key) || d.contains k) := by
  unfold contains
  rw [get?_insert]
  by_cases h : k = key <;> simp [h]

theorem get?_insertIfNew (d : Dict α) (key : String) (value : α) (k : String) :
    (d.insertIfNew key value).get? k =
      (d.get? k).or (if k = key then some value else none) := by
  unfold insertIfNew contains
  by_cases h : k = key
  · subst h
    cases hd : d.get? k <;> simp [hd]
  · split <;> simp [h]

theorem contains_eq_isSome (d : Dict α) (key : String) :
    d.contains key = (d.get? key).isSome := rfl

theorem lookup_eq_none_of_lt {k : String} {es : List (String × α)}
    (h : ∀ e ∈ es, k < e.1) : es.lookup k = none := by
  induction es with
  | nil => rfl
  | cons a es ih =>
    have : k ≠ a.1 := String.ne_of_lt (h a (by simp))
    simp [lookup_cons_eq, this, ih fun e he => h e (by simp [he])]

/-- Two dictionaries that answer every key alike are the same dictionary. -/
theorem ext_get? {d e : Dict α} (h : ∀ k, d.get? k = e.get? k) : d = e := by
  apply ext_entries
  obtain ⟨xs, hx⟩ := d
  obtain ⟨ys, hy⟩ := e
  simp only [get?] at h ⊢
  induction xs generalizing ys with
  | nil =>
    cases ys with
    | nil => rfl
    | cons b ys => simpa [lookup_cons_eq] using h b.1
  | cons a xs ih =>
    cases ys with
    | nil => simpa [lookup_cons_eq] using h a.1
    | cons b ys =>
      obtain ⟨ha, hxs⟩ := List.pairwise_cons.1 hx
      obtain ⟨hb, hys⟩ := List.pairwise_cons.1 hy
      have hab : a.1 = b.1 := by
        rcases String.le_total a.1 b.1 with hle | hle
        · by_cases hlt : a.1 < b.1
          · have hnone : (b :: ys).lookup a.1 = none := lookup_eq_none_of_lt fun e he => by
              rcases List.mem_cons.1 he with rfl | he
              · exact hlt
              · exact String.lt_trans hlt (hb e he)
            have := h a.1
            simp [lookup_cons_eq a, hnone] at this
          · exact String.le_antisymm hle (String.not_lt.1 hlt)
        · by_cases hlt : b.1 < a.1
          · have hnone : (a :: xs).lookup b.1 = none := lookup_eq_none_of_lt fun e he => by
              rcases List.mem_cons.1 he with rfl | he
              · exact hlt
              · exact String.lt_trans hlt (ha e he)
            have := h b.1
            simp [lookup_cons_eq b, hnone] at this
          · exact String.le_antisymm (String.not_lt.1 hlt) hle
      have hval : a.2 = b.2 := by simpa [lookup_cons_eq, hab] using h a.1
      have htail : xs = ys := by
        refine ih hxs ys hys fun k => ?_
        by_cases hk : k = a.1
        · rw [lookup_eq_none_of_lt fun e he => hk ▸ ha e he,
            lookup_eq_none_of_lt fun e he => hk ▸ hab ▸ hb e he]
        · have hk' : k ≠ b.1 := fun hkb => hk (hkb.trans hab.symm)
          simpa [lookup_cons_eq, hk, hk'] using h k
      rw [htail, Prod.ext hab hval]

theorem mem_keys {d : Dict α} {k : String} : k ∈ d.keys ↔ d.contains k = true := by
  unfold keys contains get?
  induction d.entries with
  | nil => simp
  | cons a es ih =>
    rw [lookup_cons_eq, List.map_cons, List.mem_cons, ih]
    by_cases h : k = a.1 <;> simp [h]

theorem nodup_keys (d : Dict α) : d.keys.Nodup :=
  List.pairwise_map.mpr (d.sorted.imp String.ne_of_lt)

end Dict
end Pipeline
