import Ripfs.Race
import Ripfs.Proof.NameMap

/-!
# Which updates survive a race

Over a published Name Map every read succeeds, so the cluster runs exactly as the chains say
(`Simulates`): the published map is the initial map with the entries of the published chain put
in order, and a writer holds the map of the chain it read with its own entry put. A publish thus
replaces the published map by the one its writer read, and every entry published since that
read is gone from it. Which entries the published map holds after a race depends on the order of
the halves alone, and `ChainState.run` computes it.
-/

namespace Ripfs

section Chain

variable (req : Nat → String × String)

theorem chainMap_append (m₀ : NameMap) (l : List Nat) (i : Nat) :
    chainMap req m₀ (l ++ [i]) = (chainMap req m₀ l).put (req i).1 (req i).2 := by
  simp [chainMap, List.foldl_append]

/-- A chain's map holds a writer's entry when the writer is on the chain and no other writer of
the chain has its key; off the chain, the key keeps its value in `m₀`. -/
theorem lookup_chainMap {i : Nat} :
    ∀ (l : List Nat) (m₀ : NameMap), (∀ j ∈ l, (req j).1 = (req i).1 → j = i) →
      (chainMap req m₀ l).lookup (req i).1 =
        if i ∈ l then some (req i).2 else m₀.lookup (req i).1
  | [], _, _ => rfl
  | j :: l, m₀, hl => by
    have hl' : ∀ j' ∈ l, (req j').1 = (req i).1 → j' = i := fun j' h => hl j' (List.mem_cons_of_mem j h)
    change (chainMap req (m₀.put (req j).1 (req j).2) l).lookup (req i).1 = _
    rw [lookup_chainMap l _ hl']
    by_cases hj : j = i
    · subst hj
      simp
    · have hk : (req i).1 ≠ (req j).1 := fun h => hj (hl j (List.mem_cons_self j l) h.symm)
      simp [GoMap.lookup_put_of_ne _ _ _ hk, Ne.symm hj]

end Chain

/-! ### Every publisher on the chain published -/

/-- The writers that publish somewhere in a schedule, in order. -/
def publishers : List Half → List Nat
  | [] => []
  | .publish i :: hs => i :: publishers hs
  | .read _ :: hs => publishers hs

theorem publishers_cons (e : Half) (hs : List Half) :
    publishers (e :: hs) = publishers [e] ++ publishers hs := by
  cases e <;> rfl

/-- Every writer a chain carries, published or held, is one of the given writers. -/
structure ChainState.Within (s : ChainState) (ws : List Nat) : Prop where
  published : ∀ j ∈ s.published, j ∈ ws
  held : ∀ i l, s.held i = some l → ∀ j ∈ l, j ∈ ws

theorem ChainState.Within.mono {s : ChainState} {ws ws' : List Nat} (h : s.Within ws)
    (hw : ∀ j ∈ ws, j ∈ ws') : s.Within ws' :=
  ⟨fun j hj => hw j (h.published j hj), fun k l hk j hj => hw j (h.held k l hk j hj)⟩

theorem ChainState.Within.step {s : ChainState} {ws : List Nat} (h : s.Within ws) :
    ∀ e : Half, (s.step e).Within (ws ++ publishers [e])
  | .read i => by
    refine ChainState.Within.mono ⟨h.published, fun k l hk j hj => ?_⟩ fun j => List.mem_append_left _
    by_cases hki : k = i
    · subst hki
      simp only [ChainState.step, setAt_self, Option.some.injEq] at hk
      exact h.published j (hk ▸ hj)
    · simp only [ChainState.step, setAt_of_ne _ _ hki] at hk
      exact h.held k l hk j hj
  | .publish i => by
    cases hs : s.held i with
    | none =>
      simp only [ChainState.step, hs]
      exact h.mono fun j => List.mem_append_left _
    | some l₀ =>
      simp only [ChainState.step, hs]
      refine ⟨fun j hj => ?_, fun k l hk j hj => ?_⟩
      · rcases List.mem_append.mp hj with hj | hj
        · exact List.mem_append_left _ (h.held i l₀ hs j hj)
        · simp [publishers, List.mem_singleton.mp hj]
      · by_cases hki : k = i
        · subst hki
          simp at hk
        · simp only [setAt_of_ne _ _ hki] at hk
          exact List.mem_append_left _ (h.held k l hk j hj)

theorem ChainState.Within.run :
    ∀ (hs : List Half) {s : ChainState} {ws : List Nat}, s.Within ws →
      (s.run hs).Within (ws ++ publishers hs)
  | [], _, _, h => by simpa [publishers] using h
  | e :: hs, _, _, h => by
    rw [publishers_cons, ← List.append_assoc]
    exact ChainState.Within.run hs (h.step e)

/-- Every writer on the published chain of a run published in it. -/
theorem mem_publishers_of_chain {hs : List Half} {j : Nat}
    (hj : j ∈ (ChainState.start.run hs).published) : j ∈ publishers hs := by
  have hstart : ChainState.start.Within [] := ⟨fun _ h => (nomatch h), fun _ _ h => (nomatch h)⟩
  simpa using (ChainState.Within.run hs hstart).published j hj

/-! ### The cluster runs as the chains say -/

section Simulation

variable (self : String) (req : Nat → String × String) (m₀ : NameMap)

/-- The cluster and the chains agree: the published map is the published chain's, and each
writer holds the map of the chain it read with its own entry put. -/
structure Simulates (selfName : String) (r : Race) (s : ChainState) : Prop where
  published : Published selfName r.cluster (chainMap req m₀ s.published)
  held : ∀ i, r.held i = (s.held i).map fun l => chainMap req m₀ (l ++ [i])

theorem Simulates.step {r : Race} {s : ChainState} (h : Simulates req m₀ self r s) :
    ∀ e : Half, Simulates req m₀ self (r.step self req e) (s.step e)
  | .read i => by
    refine ⟨h.published, fun j => ?_⟩
    by_cases hj : j = i
    · subst hj
      simp [Race.step, ChainState.step, updateCidMapRead_of_published self h.published,
        chainMap_append, Except.toOption]
    · simp [Race.step, ChainState.step, hj, h.held j]
  | .publish i => by
    have hi := h.held i
    simp only [Race.step, ChainState.step, hi]
    cases hs : s.held i with
    | none => exact h
    | some l =>
      refine ⟨h.published.publish self _, fun j => ?_⟩
      by_cases hj : j = i
      · subst hj
        simp
      · simp [hj, h.held j]

theorem Simulates.run :
    ∀ (hs : List Half) {r : Race} {s : ChainState}, Simulates req m₀ self r s →
      Simulates req m₀ self (r.run self req hs) (s.run hs)
  | [], _, _, h => h
  | e :: hs, _, _, h => Simulates.run hs (h.step self req m₀ e)

/-- **Which updates survive a race.** Start from a published Name Map `m₀` and run the halves
of any number of concurrent `updateCidMap` calls in any order. The published map afterwards is
`m₀` with the entries of the writers on the published chain put, the chain that `ChainState.run`
computes from the order of the halves alone; so a writer whose key no other publishing writer
shares keeps its entry exactly when it is on the chain, and otherwise its key has the value it
had in `m₀`. -/
theorem race_published {c : Cluster} (hc : Published self c m₀) (hs : List Half) :
    Published self ((Race.start c).run self req hs).cluster
        (chainMap req m₀ (ChainState.start.run hs).published) ∧
      ∀ i, (∀ j ∈ publishers hs, (req j).1 = (req i).1 → j = i) →
        (chainMap req m₀ (ChainState.start.run hs).published).lookup (req i).1 =
          if i ∈ (ChainState.start.run hs).published then some (req i).2 else m₀.lookup (req i).1 :=
  ⟨(Simulates.run self req m₀ hs ⟨hc, fun _ => rfl⟩).published, fun _ hi =>
    lookup_chainMap req _ m₀ fun j hj => hi j (mem_publishers_of_chain hj)⟩

/-- Three `ripfs add` runs: `alpine`, `busybox` and `nginx`. -/
def Toy.writers : Nat → String × String
  | 0 => (Toy.alpineName, Toy.alpineRoot)
  | 1 => (Toy.busyboxName, "/ipfs/bafybusybox")
  | _ => ("index.docker.io/library/nginx:latest", "/ipfs/bafynginx")

/-- `alpine` and `busybox` read `{}`; `alpine` publishes, `nginx` reads its map, `busybox`
publishes over it, and `nginx` publishes last. `busybox`, which published after `alpine`, is
lost; `alpine` survives through `nginx`. -/
theorem Toy.race_published_three :
    (ChainState.start.run [.read 0, .read 1, .publish 0, .read 2, .publish 1, .publish 2]).published =
        [0, 2] ∧
      Published Toy.selfKey ((Race.start Toy.reconciled).run Toy.selfKey Toy.writers
          [.read 0, .read 1, .publish 0, .read 2, .publish 1, .publish 2]).cluster
        (chainMap Toy.writers [] [0, 2]) ∧
        ∀ i, (∀ j ∈ publishers [.read 0, .read 1, .publish 0, .read 2, .publish 1, .publish 2],
            (Toy.writers j).1 = (Toy.writers i).1 → j = i) →
          (chainMap Toy.writers [] [0, 2]).lookup (Toy.writers i).1 =
            if i ∈ (ChainState.start.run
                [.read 0, .read 1, .publish 0, .read 2, .publish 1, .publish 2]).published
            then some (Toy.writers i).2 else ([] : NameMap).lookup (Toy.writers i).1 :=
  ⟨rfl, race_published Toy.selfKey Toy.writers [] (⟨rfl, rfl⟩ : Published Toy.selfKey Toy.reconciled [])
    [.read 0, .read 1, .publish 0, .read 2, .publish 1, .publish 2]⟩

end Simulation

end Ripfs
