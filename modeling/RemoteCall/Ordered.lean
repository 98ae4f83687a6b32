/-!
# Ordered maps

A list of pairs with distinct names, in the order in which the names first came. Writing a name again keeps its place
and replaces its value.
-/

namespace RemoteCall.Ordered

variable {α : Type}

def names (m : List (String × α)) : List String := m.map Prod.fst

def get? (m : List (String × α)) (name : String) : Option α := m.lookup name

def contains (m : List (String × α)) (name : String) : Bool := (names m).contains name

/-- The map with the name's value replaced, or with the name at the end if it is new. -/
def insert (name : String) (value : α) : List (String × α) → List (String × α)
  | [] => [(name, value)]
  | (n, v) :: rest => if n = name then (n, value) :: rest else (n, v) :: insert name value rest

/-- The map that results from writing the pairs one after the other. -/
def ofList (pairs : List (String × α)) : List (String × α) :=
  pairs.foldl (fun m p => insert p.1 p.2 m) []

theorem names_insert (name : String) (value : α) (m : List (String × α)) :
    names (insert name value m) = if name ∈ names m then names m else names m ++ [name] := by
  induction m with
  | nil => simp [insert, names]
  | cons p m ih =>
    obtain ⟨n, v⟩ := p
    by_cases h : n = name
    · simp [insert, names, h]
    · have h' : name ≠ n := Ne.symm h
      simp only [insert, h, if_false]
      simp only [names, List.map_cons] at ih ⊢
      rw [ih]
      by_cases hm : name ∈ m.map Prod.fst <;> simp [hm, h']

theorem nodup_names_insert {name : String} {value : α} {m : List (String × α)} (h : (names m).Nodup) :
    (names (insert name value m)).Nodup := by
  rw [names_insert]
  split
  · exact h
  · rename_i hm
    exact List.nodup_append.2 ⟨h, by simp, fun a ha b hb => by
      rw [List.mem_singleton] at hb; rintro rfl; exact hm (hb ▸ ha)⟩

theorem nodup_names_ofList (pairs : List (String × α)) : (names (ofList pairs)).Nodup := by
  suffices ∀ m : List (String × α), (names m).Nodup →
      (names (pairs.foldl (fun m p => insert p.1 p.2 m) m)).Nodup from this [] (by simp [names])
  induction pairs with
  | nil => exact fun _ h => h
  | cons p pairs ih => exact fun m h => ih _ (nodup_names_insert h)

end RemoteCall.Ordered
