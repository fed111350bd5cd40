import Mathlib.Combinatorics.SimpleGraph.Acyclic

/-!
# Links that lead away from a root

In a graph without cycles a vertex is entered from a root by one link only, and
whatever leaves it by any other link goes on away from the root. The same holds
of every other vertex taken as the root, and that is what keeps a flood from
coming back and a next hop from being ambiguous.
-/

namespace NetworkAdapter.LoopFree

open SimpleGraph

variable {V : Type} {G : SimpleGraph V}

/-- The link from `u` to `v` leads away from `root`: some path reaches `u` without meeting `v`. -/
structure Away (G : SimpleGraph V) (root u v : V) : Prop where
  adjacent : G.Adj u v
  reached : ∃ path : G.Walk root u, path.IsPath ∧ v ∉ path.support

/-- No link leads away from a vertex into it. -/
theorem not_away_into_root {root u : V} : ¬ Away G root u root := by
  rintro ⟨_, path, _, missed⟩
  exact missed path.start_mem_support

/-- Every link of the root leads away from it. -/
theorem away_from_root {root v : V} (adjacent : G.Adj root v) : Away G root root v :=
  ⟨adjacent, .nil, .nil, by simpa using adjacent.ne'⟩

/-- A vertex other than the root is entered by some link. -/
theorem exists_away {root v : V} (reachable : G.Reachable root v) (apart : v ≠ root) :
    ∃ u, Away G root u v := by
  obtain ⟨path, isPath⟩ := reachable.exists_isPath
  have nonempty : ¬ path.Nil := fun empty => apart empty.eq.symm
  refine ⟨path.penultimate, path.adj_penultimate nonempty, path.dropLast, isPath.dropLast, ?_⟩
  intro again
  have concat := path.concat_dropLast (path.adj_penultimate nonempty)
  rw [← concat, Walk.concat_isPath_iff] at isPath
  exact isPath.2 again

/-- Where each vertex has one neighbour of a lower rank at most, and none of its own, there are no
cycles: the highest vertex of a cycle would have two. -/
theorem isAcyclic_of_rank (rank : V → Nat) (apart : ∀ {u v}, G.Adj u v → rank u ≠ rank v)
    (single : ∀ {v u u'}, G.Adj v u → G.Adj v u' → rank u < rank v → rank u' < rank v → u = u') :
    G.IsAcyclic := by
  classical
  intro root cycle isCycle
  obtain ⟨top, member, highest⟩ := cycle.support.toFinset.exists_max_image rank
    ⟨root, by simp⟩
  have onCycle : top ∈ cycle.support := List.mem_toFinset.mp member
  have turned := isCycle.rotate onCycle
  have nonempty := turned.not_nil
  have lower {v : V} (linked : G.Adj top v) (met : v ∈ (cycle.rotate top onCycle).support) :
      rank v < rank top := by
    have onCycle' : v ∈ cycle.support := by simpa using met
    exact lt_of_le_of_ne (highest v (List.mem_toFinset.mpr onCycle')) (apart linked).symm
  have next := (cycle.rotate top onCycle).adj_snd nonempty
  have last := (cycle.rotate top onCycle).adj_penultimate nonempty
  exact turned.snd_ne_penultimate (single next last.symm
    (lower next (Walk.getVert_mem_support ..)) (lower last.symm (Walk.getVert_mem_support ..)))

variable (acyclic : G.IsAcyclic)
include acyclic

/-- A vertex is entered by no other link. -/
theorem Away.unique {root u u' v : V} (first : Away G root u v) (second : Away G root u' v) :
    u = u' := by
  obtain ⟨path, isPath, missed⟩ := first.reached
  obtain ⟨path', isPath', missed'⟩ := second.reached
  have longer := isPath.concat missed first.adjacent
  have longer' := isPath'.concat missed' second.adjacent
  have same : path.concat first.adjacent = path'.concat second.adjacent :=
    congrArg Subtype.val
      ((acyclic.subsingleton_path root v).elim ⟨_, longer⟩ ⟨_, longer'⟩)
  have ends := congrArg Walk.penultimate same
  simpa using ends

/-- Leaving by another link than the one it was entered by, a path goes on away from the root. -/
theorem Away.next {root u v w : V} (away : Away G root u v) (adjacent : G.Adj v w)
    (onward : w ≠ u) : Away G root v w := by
  obtain ⟨path, isPath, missed⟩ := away.reached
  refine ⟨adjacent, path.concat away.adjacent, isPath.concat missed away.adjacent, ?_⟩
  intro met
  have back := acyclic.eq_penultimate_of_adj_end (isPath.concat missed away.adjacent) adjacent met
  exact onward (by simpa using back)

/-- But not in both. -/
theorem Away.asymm {root u v : V} (away : Away G root u v) : ¬ Away G root v u := by
  intro back
  obtain ⟨path, isPath, missed⟩ := away.reached
  obtain ⟨path', isPath', missed'⟩ := back.reached
  have longer := isPath'.concat missed' back.adjacent
  have same : path = path'.concat back.adjacent :=
    congrArg Subtype.val ((acyclic.subsingleton_path root u).elim ⟨_, isPath⟩ ⟨_, longer⟩)
  exact missed (same ▸ path'.support_subset_support_concat _ path'.end_mem_support)

/-- A vertex entered from one side lies, for every other root, towards a single further link. -/
theorem away_onward_iff {target u v : V} (adjacent : G.Adj v u) :
    (∃ w, w ≠ u ∧ Away G target w v) ↔ v ≠ target ∧ Away G target v u := by
  constructor
  · rintro ⟨w, onward, towards⟩
    refine ⟨?_, towards.next acyclic adjacent (Ne.symm onward)⟩
    rintro rfl
    exact not_away_into_root towards
  · rintro ⟨apart, away⟩
    obtain ⟨path, isPath, missed⟩ := away.reached
    obtain ⟨w, towards⟩ := exists_away ⟨path⟩ apart
    refine ⟨w, ?_, towards⟩
    rintro rfl
    exact away.asymm acyclic towards

end NetworkAdapter.LoopFree
