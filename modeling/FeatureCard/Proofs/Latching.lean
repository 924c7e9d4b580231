import Mathlib.Data.List.Induction

/-!
# What a history has latched

Something is latched by an event of a history, and it stays latched as long as each later event
keeps it. Or it is what the latest event said that said anything.
-/

namespace FeatureCard

variable {α : Type}

/-- An event latched something in view of what was before it, and every event after it kept it. -/
def Latched (sets : List α → α → Prop) (keeps : α → Prop) (history : List α) : Prop :=
  ∃ before e after, history = before ++ e :: after ∧ sets before e ∧ ∀ x ∈ after, keeps x

theorem latched_concat (sets : List α → α → Prop) (keeps : α → Prop) (history : List α) (e : α) :
    Latched sets keeps (history ++ [e]) ↔
      sets history e ∨ (Latched sets keeps history ∧ keeps e) := by
  constructor
  · rintro ⟨before, x, after, hsplit, hset, hkept⟩
    rcases List.eq_nil_or_concat after with rfl | ⟨after, last, rfl⟩
    · obtain ⟨rfl, hlast⟩ := List.append_inj' hsplit rfl
      obtain rfl := List.singleton_inj.1 hlast
      exact .inl hset
    · rw [List.concat_eq_append] at hsplit hkept
      rw [← List.cons_append, ← List.append_assoc] at hsplit
      obtain ⟨rfl, hlast⟩ := List.append_inj' hsplit rfl
      obtain rfl := List.singleton_inj.1 hlast
      have hbefore : ∀ y ∈ after, keeps y := fun y hy => hkept y (List.mem_append_left _ hy)
      exact .inr ⟨⟨before, x, after, rfl, hset, hbefore⟩, hkept e List.mem_concat_self⟩
  · rintro (hset | ⟨⟨before, x, after, rfl, hset, hkept⟩, hlast⟩)
    · exact ⟨history, e, [], rfl, hset, fun y hy => absurd hy List.not_mem_nil⟩
    · refine ⟨before, x, after ++ [e], by rw [List.append_assoc, List.cons_append], hset, ?_⟩
      intro y hy
      rcases List.mem_append.1 hy with hy | hy
      · exact hkept y hy
      · rwa [List.mem_singleton.1 hy]

/-! ## The latest -/

variable {β : Type}

/-- What the latest event said that said anything. -/
def latest? (told? : α → Option β) (history : List α) : Option β :=
  (history.filterMap told?).getLast?

theorem latest?_concat (told? : α → Option β) (history : List α) (e : α) :
    latest? told? (history ++ [e]) = (told? e).or (latest? told? history) := by
  unfold latest?
  rw [List.filterMap_append]
  cases h : told? e with
  | none => rw [List.filterMap_cons_none h, List.filterMap_nil, List.append_nil, Option.none_or]
  | some b =>
    rw [List.filterMap_cons_some h, List.filterMap_nil, List.getLast?_concat, Option.some_or]

end FeatureCard
