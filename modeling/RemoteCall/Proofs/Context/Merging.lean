import RemoteCall.Proofs.Context.WellFormed

/-!
# Merging many contexts

A list of contexts can be merged in any bracketing. All of them give one context, which `stack` describes field by
field: the last context that has a field set decides it, and the headers of all are put one after the other. A context
with nothing set can stand anywhere.
-/

namespace RemoteCall.Context

/-- Contexts merged two by two, the one on the right on top of the one on the left. -/
inductive MergeTree where
  | context (c : Context)
  | merge (under upper : MergeTree)

namespace MergeTree

def contexts : MergeTree → List Context
  | context c => [c]
  | merge under upper => under.contexts ++ upper.contexts

def eval : MergeTree → Except Fault Context
  | context c => .ok c
  | merge under upper => do
    let c ← under.eval
    c.merge (.context (← upper.eval))

end MergeTree

/-! ## What the contexts say together -/

def lastSet {α : Type} (field : Context → Option α) (cs : List Context) : Option α := (cs.filterMap field).getLast?

/-- The contexts on top of each other, the first one at the bottom. -/
def stack (t : Transport) (cs : List Context) : Context where
  transport := t
  channel := lastSet channel cs
  timeout := lastSet timeout cs
  deadline := lastSet deadline cs
  credentials := lastSet credentials cs
  headers := .concat (cs.map headers)
  tracer := lastSet tracer cs
  retry := lastSet retry cs
  codes := lastSet codes cs
  streamWait := lastSet streamWait cs
  streamIdle := lastSet streamIdle cs

theorem lastSet_append {α : Type} (field : Context → Option α) (cs ds : List Context) :
    lastSet field (cs ++ ds) = firstSet (lastSet field ds) (lastSet field cs) := by
  simp only [lastSet, List.filterMap_append, List.getLast?_append]
  cases (ds.filterMap field).getLast? <;> rfl

theorem lastSet_singleton {α : Type} (field : Context → Option α) (c : Context) : lastSet field [c] = field c := by
  cases h : field c <;> simp [lastSet, h]

theorem stack_singleton {t : Transport} {c : Context} (ht : c.transport = t) (hc : c.WellFormed) :
    stack t [c] = c := by
  subst ht
  simp only [stack, lastSet_singleton, List.map_singleton, HeaderMap.concat_singleton hc.names_nodup]

theorem stack_append (t : Transport) (cs ds : List Context) :
    stack t (cs ++ ds) = (stack t cs).overlay (stack t ds) := by
  simp only [stack, overlay, lastSet_append, List.map_append, HeaderMap.concat_append]

theorem stack_insert_create (t : Transport) (cs ds : List Context) :
    stack t (cs ++ create t :: ds) = stack t (cs ++ ds) := by
  have h : stack t [create t] = stack t [] := stack_singleton rfl (create_wellFormed t)
  calc stack t (cs ++ ([create t] ++ ds))
      = (stack t cs).overlay ((stack t [create t]).overlay (stack t ds)) := by rw [stack_append, stack_append]
    _ = (stack t cs).overlay (stack t ([] ++ ds)) := by rw [h, stack_append t []]
    _ = stack t (cs ++ ds) := by rw [← stack_append]; rfl

section
variable {t : Transport}

theorem stack_wellFormed {cs : List Context} (h : ∀ c ∈ cs, c.transport = t ∧ c.WellFormed) :
    (stack t cs).WellFormed := by
  induction cs with
  | nil => exact create_wellFormed t
  | cons c cs ih =>
    obtain ⟨ht, hc⟩ := h c List.mem_cons_self
    have hcs := ih fun d hd => h d (List.mem_cons_of_mem c hd)
    rw [← List.singleton_append, stack_append, stack_singleton ht hc]
    exact overlay_wellFormed hc hcs ht.symm

/-! ## Bracketings -/

/-- The induction is on the tree: a merge of two stacks is the stack of both lists, and both are well-formed, so that
the check of the merged context has nothing to object to. -/
theorem MergeTree.eval_eq_stack : ∀ tree : MergeTree, (∀ c ∈ tree.contexts, c.transport = t ∧ c.WellFormed) →
    tree.eval = .ok (stack t tree.contexts)
  | .context c, h => by
    obtain ⟨ht, hc⟩ := h c (List.mem_singleton.mpr rfl)
    show Except.ok c = .ok (stack t [c])
    rw [stack_singleton ht hc]
  | .merge under upper, h => by
    have hu : ∀ c ∈ under.contexts, c.transport = t ∧ c.WellFormed := fun c hc => h c (List.mem_append_left _ hc)
    have ho : ∀ c ∈ upper.contexts, c.transport = t ∧ c.WellFormed := fun c hc => h c (List.mem_append_right _ hc)
    rw [eval, eval_eq_stack under hu, eval_eq_stack upper ho, contexts, stack_append]
    exact merge_eq (stack_wellFormed hu).toValidTimeouts (stack_wellFormed ho).toValidTimeouts rfl

/-- All bracketings of merges succeed with the stack of the contexts, whether or not contexts with nothing set are put
in between. -/
theorem merge_in_any_bracketing {cs : List Context} (hcs : ∀ c ∈ cs, Constructed t c) :
    (∀ tree : MergeTree, tree.contexts = cs → tree.eval = .ok (stack t cs)) ∧
    (∀ front back, cs = front ++ back → ∀ tree : MergeTree, tree.contexts = front ++ create t :: back →
      tree.eval = .ok (stack t cs)) ∧
    (stack t cs).headers.names = (cs.flatMap fun c => c.headers.names).eraseDups ∧
    (stack t cs).headers.names.Nodup ∧
    ∀ name, (stack t cs).headers.values name = cs.flatMap fun c => c.headers.values name := by
  have hw : ∀ c ∈ cs, c.transport = t ∧ c.WellFormed := fun c hc => constructed_iff.mp (hcs c hc)
  refine ⟨?_, ?_, ?_, ?_, ?_⟩
  · rintro tree rfl
    exact tree.eval_eq_stack hw
  · rintro front back rfl tree htree
    rw [← stack_insert_create, ← htree]
    apply tree.eval_eq_stack
    intro c hc
    rw [htree, List.mem_append, List.mem_cons] at hc
    rcases hc with hc | rfl | hc
    · exact hw c (List.mem_append_left _ hc)
    · exact ⟨rfl, create_wellFormed t⟩
    · exact hw c (List.mem_append_right _ hc)
  · simp only [stack, HeaderMap.names_concat, List.flatMap_map]
  · exact HeaderMap.nodup_names_concat _
  · intro name
    simp only [stack, HeaderMap.values_concat, List.flatMap_map]

end

theorem merge_in_any_bracketing_streaming :
    let under : Context := { create .streaming with
      timeout := some ⟨5000000, by decide⟩, streamWait := some .zero,
      headers := ⟨[("a", [.string "x"]), ("b", [])]⟩ }
    let upper : Context := { create .streaming with
      timeout := some ⟨9000000, by decide⟩, codes := some (.ofList []),
      headers := ⟨[("c", [.string "y"]), ("a", [.string "z"])]⟩ }
    (∀ c ∈ [under, create .streaming, upper], Constructed .streaming c) ∧
      (MergeTree.merge (.context under) (.merge (.context (create .streaming)) (.context upper))).eval =
        .ok { create .streaming with
          timeout := some ⟨9000000, by decide⟩, streamWait := some .zero, codes := some (.ofList []),
          headers := ⟨[("a", [.string "x", .string "z"]), ("b", []), ("c", [.string "y"])]⟩ } := by
  intro under upper
  have h : ∀ c ∈ [under, create .streaming, upper], Constructed .streaming c := by
    intro c hc
    simp only [List.mem_cons, List.not_mem_nil, or_false] at hc
    rcases hc with rfl | rfl | rfl
    · exact ⟨{ timeout := some ⟨5000000, by decide⟩, streamWait := some (some .zero),
               headers := some [("a", .list [.string "x"]), ("b", .list [])] },
        by rintro _ ⟨⟩; decide, rfl⟩
    · exact ⟨{}, by rintro _ ⟨⟩; decide, rfl⟩
    · exact ⟨{ timeout := some ⟨9000000, by decide⟩, codes := some (.ofList []),
               headers := some [("c", .list [.string "y"]), ("a", .list [.string "z"])] },
        by rintro _ ⟨⟩; decide, rfl⟩
  exact ⟨h, (merge_in_any_bracketing h).1 _ rfl⟩

end RemoteCall.Context
