import Failover.Registry
import Mathlib.Data.List.Nodup
import Mathlib.Tactic.Common

/-!
# The order of a registry

A registry is a stable sort of what is configured. `Registry.Ranks` says so with the position of
every configuration in its list, which decides between configurations of one priority: since no two
positions are the same, there is only one such order. That the endpoints ascend in priority and
which of them is the last one follows from it, and where no two priorities are the same either, the
positions do not matter any more.
-/

namespace Failover

namespace EndpointConfig

/-- A configuration with its position comes before another one: its priority number is lower, or it
is the same and the position is earlier. -/
def RanksBefore (a b : EndpointConfig × Nat) : Prop :=
  a.1.priority.toInt < b.1.priority.toInt ∨
    (a.1.priority.toInt = b.1.priority.toInt ∧ a.2 < b.2)

instance (a b : EndpointConfig × Nat) : Decidable (RanksBefore a b) :=
  inferInstanceAs (Decidable (_ ∨ _))

/-- A configuration is the latest one of a list among those with the greatest priority number: none
has a greater one, and all that come after it have lower ones. -/
def IsLatestOfGreatest (c : EndpointConfig) (cs : List EndpointConfig) : Prop :=
  ∃ k : Nat, cs[k]? = some c ∧ ∀ (j : Nat) (d : EndpointConfig), cs[j]? = some d →
    d.priority.toInt ≤ c.priority.toInt ∧ (k < j → d.priority.toInt < c.priority.toInt)

/-- The order by priority number alone. -/
def precedes (a b : EndpointConfig) : Bool := a.priority.toInt ≤ b.priority.toInt

/-- The order of the priorities is transitive. -/
lemma precedes_trans (a b c : EndpointConfig) (hab : precedes a b = true)
    (hbc : precedes b c = true) : precedes a c = true := by
  simp only [precedes, decide_eq_true_eq] at hab hbc ⊢
  omega

/-- Of two configurations one precedes the other. -/
lemma precedes_total (a b : EndpointConfig) : (precedes a b || precedes b a) = true := by
  simp only [precedes, Bool.or_eq_true, decide_eq_true_eq]
  omega

/-- Of two configurations only one ranks before the other. -/
lemma RanksBefore.asymm {a b : EndpointConfig × Nat} (hab : RanksBefore a b) :
    ¬ RanksBefore b a := by
  unfold RanksBefore at hab ⊢
  omega

/-- Priorities do not descend along the ranks. -/
lemma RanksBefore.priority_le {a b : EndpointConfig × Nat} (h : RanksBefore a b) :
    (Endpoint.ofConfig a.1).priority ≤ (Endpoint.ofConfig b.1).priority := by
  rw [Endpoint.ofConfig_priority, Endpoint.ofConfig_priority]
  rcases h with hlt | ⟨heq, -⟩
  · exact Int.le_of_lt hlt
  · exact Int.le_of_eq heq

/-- At different positions, the comparison that a stable sort makes is the one by rank. -/
lemma ranksBefore_of_zipIdxLE {a b : EndpointConfig × Nat} (hne : a.2 ≠ b.2)
    (h : List.zipIdxLE precedes a b = true) : RanksBefore a b := by
  unfold List.zipIdxLE precedes at h
  unfold RanksBefore
  by_cases hab : a.1.priority.toInt ≤ b.1.priority.toInt
  · by_cases hba : b.1.priority.toInt ≤ a.1.priority.toInt
    · have hle : a.2 ≤ b.2 := by simpa [hab, hba] using h
      omega
    · omega
  · simp [hab] at h

/-- No two positions in a list are the same. -/
lemma nodup_positions (cs : List EndpointConfig) : (cs.zipIdx.map Prod.snd).Nodup := by
  rw [List.zipIdx_map_snd]
  exact List.nodup_range'

end EndpointConfig

namespace Registry

open EndpointConfig

/-- A registry holds the endpoints of configurations in the order of their ranks. -/
structure Ranks (r : Registry) (cs : List EndpointConfig) : Prop where
  /-- There is one order of the configurations by rank, and the endpoints stand in it. -/
  ranked : ∃ ranked : List (EndpointConfig × Nat), ranked.Perm cs.zipIdx ∧
    ranked.Pairwise RanksBefore ∧ r.endpoints = ranked.map fun p => .ofConfig p.1
  /-- The endpoints are those of the configurations. -/
  perm : r.endpoints.Perm (cs.map .ofConfig)
  /-- Their priorities ascend. -/
  ascending : r.endpoints.Pairwise fun a b => a.priority ≤ b.priority
  /-- Their URLs, the keys of their breakers, are the configured ones. -/
  urls : (r.endpoints.map Endpoint.url).Perm (cs.map EndpointConfig.url)

variable {cs cs' : List EndpointConfig} {r : Registry}

/-- Endpoints that stand in the order of the ranks are those of the configurations, ascending in
priority. -/
lemma ranks_of_ranked {ranked : List (EndpointConfig × Nat)} (hperm : ranked.Perm cs.zipIdx)
    (hranked : ranked.Pairwise RanksBefore)
    (hendpoints : r.endpoints = ranked.map fun p => .ofConfig p.1) : r.Ranks cs := by
  have hconfigs : (ranked.map Prod.fst).Perm cs := by
    have hfst := hperm.map Prod.fst
    rwa [List.zipIdx_map_fst] at hfst
  have hmap : r.endpoints = (ranked.map Prod.fst).map .ofConfig := by
    rw [hendpoints, List.map_map]
    rfl
  refine ⟨⟨ranked, hperm, hranked, hendpoints⟩, ?_, ?_, ?_⟩
  · rw [hmap]
    exact hconfigs.map _
  · rw [hendpoints, List.pairwise_map]
    exact hranked.imp RanksBefore.priority_le
  · have hurls : (ranked.map Prod.fst).map (Endpoint.url ∘ .ofConfig) =
        (ranked.map Prod.fst).map EndpointConfig.url :=
      List.map_congr_left fun c _ => Endpoint.ofConfig_url c
    rw [hmap, List.map_map, hurls]
    exact hconfigs.map _

/-- There is a registry for any endpoints at all, and it holds them sorted. -/
lemma ofConfigs_eq_ok_iff :
    ofConfigs cs = .ok r ↔ cs ≠ [] ∧ r.endpoints = sort (cs.map .ofConfig) := by
  unfold ofConfigs
  by_cases hnil : cs = []
  · simp [hnil]
  · rw [dif_neg hnil]
    obtain ⟨endpoints, nonempty, ordered⟩ := r
    simp [hnil, eq_comm]

/-- Sorting endpoints is sorting their configurations. -/
lemma sort_map_ofConfig (cs : List EndpointConfig) :
    sort (cs.map .ofConfig) = (cs.mergeSort EndpointConfig.precedes).map .ofConfig := by
  have hkey : ∀ a ∈ cs, ∀ b ∈ cs,
      EndpointConfig.precedes a b = precedes (.ofConfig a) (.ofConfig b) := fun _ _ _ _ => rfl
  exact (List.map_mergeSort hkey).symm

/-- The registry of configurations ranks them. -/
lemma ranks_of_ofConfigs (h : ofConfigs cs = .ok r) : r.Ranks cs := by
  obtain ⟨-, hendpoints⟩ := ofConfigs_eq_ok_iff.mp h
  let ranked := cs.zipIdx.mergeSort (List.zipIdxLE EndpointConfig.precedes)
  have hperm : ranked.Perm cs.zipIdx := List.mergeSort_perm _ _
  have hsorted : ranked.Pairwise fun a b => List.zipIdxLE EndpointConfig.precedes a b = true :=
    List.pairwise_mergeSort (List.zipIdxLE_trans precedes_trans)
      (List.zipIdxLE_total precedes_total) _
  have hdistinct : ranked.Pairwise fun a b => a.2 ≠ b.2 :=
    List.pairwise_map.mp ((hperm.map Prod.snd).nodup_iff.mpr (nodup_positions cs))
  refine ranks_of_ranked hperm ((hdistinct.and hsorted).imp ?_) ?_
  · rintro a b ⟨hne, hle⟩
    exact ranksBefore_of_zipIdxLE hne hle
  · rw [hendpoints, sort_map_ofConfig, ← List.mergeSort_zipIdx, List.map_map]
    rfl

/-- The last index is the only one that is said to be last. -/
lemma isLast_iff {index : Nat} : r.isLast index = true ↔ index = r.size - 1 := by
  have hpos := r.size_pos
  unfold isLast
  rw [decide_eq_true_eq]
  omega

/-- The last endpoint is the latest one of those with the greatest priority number. -/
lemma Ranks.exists_last (h : r.Ranks cs) :
    ∃ c, r.get? (r.size - 1) = some (.ofConfig c) ∧ c.IsLatestOfGreatest cs := by
  obtain ⟨ranked, hperm, hranked, hendpoints⟩ := h.ranked
  rcases List.eq_nil_or_concat ranked with rfl | ⟨front, ⟨c, k⟩, rfl⟩
  · exact absurd hendpoints r.nonempty
  rw [List.concat_eq_append] at hperm hranked hendpoints
  have hget : r.get? (r.size - 1) = some (.ofConfig c) := by
    unfold get? size
    rw [hendpoints]
    simp
  have hall : ∀ p ∈ cs.zipIdx, p = (c, k) ∨ RanksBefore p (c, k) := by
    intro p hp
    rcases List.mem_append.mp (hperm.mem_iff.mpr hp) with hfront | hlast
    · exact Or.inr ((List.pairwise_append.mp hranked).2.2 p hfront _ (List.mem_singleton_self _))
    · exact Or.inl (List.mem_singleton.mp hlast)
  refine ⟨c, hget, k, ?_, ?_⟩
  · exact List.mk_mem_zipIdx_iff_getElem?.mp (hperm.mem_iff.mp (by simp))
  · intro j d hd
    rcases hall (d, j) (List.mk_mem_zipIdx_iff_getElem?.mpr hd) with heq | hlt | ⟨heq, hlt⟩
    · obtain ⟨rfl, rfl⟩ := Prod.ext_iff.mp heq
      exact ⟨Int.le_refl _, fun hself => absurd hself (Nat.lt_irrefl _)⟩
    · exact ⟨Int.le_of_lt hlt, fun _ => hlt⟩
    · exact ⟨Int.le_of_eq heq, fun hafter => absurd hlt (Nat.lt_asymm hafter)⟩

/-- The sorted endpoints are those of the configurations. -/
lemma mem_sort_map_ofConfig {e : Endpoint} :
    e ∈ sort (cs.map .ofConfig) ↔ ∃ c ∈ cs, Endpoint.ofConfig c = e := by
  rw [(sort_perm _).mem_iff, List.mem_map]

/-- Where no two priorities are the same, the order of the configurations does not matter. -/
lemma sort_eq_of_perm (hdistinct : (cs.map EndpointConfig.priority).Nodup) (hperm : cs'.Perm cs) :
    sort (cs'.map .ofConfig) = sort (cs.map .ofConfig) := by
  refine List.Perm.eq_of_pairwise ?_ (sort_ordered _) (sort_ordered _) ?_
  · intro a b ha hb hab hba
    obtain ⟨c, hc, rfl⟩ := mem_sort_map_ofConfig.mp ha
    obtain ⟨d, hd, rfl⟩ := mem_sort_map_ofConfig.mp hb
    have hpriority : c.priority = d.priority := Int32.toInt_inj.mp (Int.le_antisymm hab hba)
    rw [List.inj_on_of_nodup_map hdistinct (hperm.mem_iff.mp hc) hd hpriority]
  · exact (sort_perm _).trans ((hperm.map _).trans (sort_perm _).symm)

/-- **A registry ranks its configurations.** Only for no configurations at all there is no registry.
Otherwise it holds the endpoint of each, ascending in priority and, for one priority, in the order
in which they are configured. Exactly one index is the last one, and it is that of the latest
endpoint among those with the greatest priority number. Where no two priorities are the same, the
registry does not depend on the order of the configurations. -/
theorem registry_ranks_configs (cs : List EndpointConfig) :
    (ofConfigs cs = .error .noEndpoints ↔ cs = []) ∧
      (cs ≠ [] → ∃ r, ofConfigs cs = .ok r ∧ r.Ranks cs ∧
        (∃ last c, (∀ index, r.isLast index = true ↔ index = last) ∧
          r.get? last = some (.ofConfig c) ∧ c.IsLatestOfGreatest cs) ∧
        ((cs.map EndpointConfig.priority).Nodup → ∀ cs', cs'.Perm cs → ofConfigs cs' = .ok r)) := by
  refine ⟨?_, ?_⟩
  · unfold ofConfigs
    by_cases hnil : cs = [] <;> simp [hnil]
  · intro hne
    obtain ⟨r, hr⟩ : ∃ r, ofConfigs cs = .ok r := by
      unfold ofConfigs
      rw [dif_neg hne]
      exact ⟨_, rfl⟩
    have hranks := ranks_of_ofConfigs hr
    obtain ⟨c, hlast, hgreatest⟩ := hranks.exists_last
    refine ⟨r, hr, hranks, ⟨r.size - 1, c, fun _ => isLast_iff, hlast, hgreatest⟩, ?_⟩
    intro hdistinct cs' hperm
    rw [ofConfigs_eq_ok_iff] at hr ⊢
    refine ⟨?_, hr.2.trans (sort_eq_of_perm hdistinct hperm).symm⟩
    rintro rfl
    exact hne hperm.nil_eq.symm

/-- The endpoint with the negative number comes first, and of two with the same number the one that
is configured later is the last one. Without it, the order of the other two does not matter. -/
theorem registry_ranks_configs_of_three :
    let a := (EndpointConfig.ofUrl "http://a").withPriority 1
    let b := (EndpointConfig.ofUrl "http://b").withPriority (-1)
    let c := (EndpointConfig.ofUrl "http://c").withPriority 1
    (∃ r, ofConfigs [a, b, c] = .ok r ∧ r.endpoints = [b, a, c].map .ofConfig) ∧
      ([a, b].map EndpointConfig.priority).Nodup ∧ ofConfigs [a, b] = ofConfigs [b, a] := by
  intro a b c
  obtain ⟨-, hthree⟩ := registry_ranks_configs [a, b, c]
  obtain ⟨r, hr, hranks, -, -⟩ := hthree (by decide)
  obtain ⟨ranked, hperm, hranked, hendpoints⟩ := hranks.ranked
  have hdistinct : ([a, b].map EndpointConfig.priority).Nodup := by decide
  obtain ⟨-, htwo⟩ := registry_ranks_configs [a, b]
  obtain ⟨s, hs, -, -, hsame⟩ := htwo (by decide)
  have horder : ranked = [(b, 1), (a, 0), (c, 2)] := by
    refine List.Perm.eq_of_pairwise ?_ hranked (by decide) (hperm.trans (by decide))
    intro p q _ _ hpq hqp
    exact absurd hqp hpq.asymm
  refine ⟨⟨r, hr, ?_⟩, hdistinct, ?_⟩
  · rw [hendpoints, horder]
    rfl
  · rw [hs, hsame hdistinct [b, a] (List.Perm.swap a b [])]

end Registry

end Failover
