import Ripfs.Writer

/-!
# Decorating the manifest

`convertIpfs` succeeds exactly when the digest-to-CID table has an entry for the config digest
and for every layer digest. The copy it returns differs from the manifest only in the `urls` of
those descriptors, each `ipfs://` and the CID of its digest's entry, and a failure names the first
descriptor without an entry: the config before the layers, the layers in manifest order.
-/

namespace Ripfs

variable {Bytes Cid : Type} (L : Lib Bytes Cid) (cids : CidMap Cid) (kind : String)

/-- A descriptor whose `urls` are `ipfs://` and the CID of its digest's table entry. -/
def withLocator (d : Descriptor) : Descriptor :=
  { d with urls := (cids.lookup d.digest).toList.map fun c => IPFSSchema ++ L.cidString c }

/-- The error `convertIpfs` reports for a descriptor the table has no entry for. -/
def notFound (d : Descriptor) : String := kind ++ " descriptor " ++ d.digest.toString ++ " not found"

/-- A descriptor the table has no entry for. -/
def missing (d : Descriptor) : Bool := (cids.lookup d.digest).isNone

theorem decorate_eq (d : Descriptor) :
    decorate L cids kind d =
      if missing cids d then .error (notFound kind d) else .ok (withLocator L cids d) := by
  unfold decorate missing withLocator notFound
  cases cids.lookup d.digest <;> rfl

/-- The layer loop of `convertIpfs` stops at the first layer without an entry. -/
theorem mapM_decorate (ds : List Descriptor) :
    ds.mapM (decorate L cids kind) =
      match ds.find? (missing cids) with
      | some d => .error (notFound kind d)
      | none => .ok (ds.map (withLocator L cids)) := by
  induction ds with
  | nil => rfl
  | cons d ds ih =>
    rw [List.mapM_cons, decorate_eq, List.find?_cons]
    by_cases hd : missing cids d
    · simp only [hd, if_true]
      rfl
    · simp only [hd, if_false, Bool.false_eq_true, ih]
      cases ds.find? (missing cids) <;> rfl

theorem convertIpfs_eq (m : Manifest) :
    convertIpfs L m cids =
      if missing cids m.config then .error (notFound "config" m.config)
      else match m.layers.find? (missing cids) with
        | some d => .error (notFound "layer" d)
        | none => .ok { m with config := withLocator L cids m.config,
                               layers := m.layers.map (withLocator L cids) } := by
  unfold convertIpfs
  rw [decorate_eq, mapM_decorate]
  by_cases hc : missing cids m.config
  · simp only [hc, if_true]
    rfl
  · simp only [hc, if_false, Bool.false_eq_true]
    cases m.layers.find? (missing cids) <;> rfl

/-- **Decoration.** `convertIpfs` succeeds exactly when the table covers the config and every
layer, and then only the `urls` change, each to `ipfs://` and its entry's CID, the layers keeping
their order; otherwise it reports the first descriptor without an entry, config first. -/
theorem convertIpfs_spec (m m' : Manifest) (e : String) :
    (convertIpfs L m cids = .ok m' ↔
      !missing cids m.config ∧ (∀ d ∈ m.layers, !missing cids d) ∧
        m' = { m with config := withLocator L cids m.config,
                      layers := m.layers.map (withLocator L cids) }) ∧
    (convertIpfs L m cids = .error e ↔
      (missing cids m.config ∧ e = notFound "config" m.config) ∨
      (!missing cids m.config ∧ ∃ pre d post, m.layers = pre ++ d :: post ∧
        (∀ d' ∈ pre, !missing cids d') ∧ missing cids d ∧ e = notFound "layer" d)) := by
  -- the statement's first layer without an entry is the one `find?` returns
  have hfirst : (∃ pre d post, m.layers = pre ++ d :: post ∧
      (∀ d' ∈ pre, !missing cids d') ∧ missing cids d ∧ e = notFound "layer" d) ↔
      ∃ d, m.layers.find? (missing cids) = some d ∧ e = notFound "layer" d := by
    simp only [List.find?_eq_some]
    exact ⟨fun ⟨pre, d, post, h, hpre, hd, he⟩ => ⟨d, ⟨hd, pre, post, h, hpre⟩, he⟩,
      fun ⟨d, ⟨hd, pre, post, h, hpre⟩, he⟩ => ⟨pre, d, post, h, hpre, hd, he⟩⟩
  have hall : (∀ d ∈ m.layers, !missing cids d) ↔ m.layers.find? (missing cids) = none := by
    simp [List.find?_eq_none]
  rw [hfirst, hall, convertIpfs_eq]
  by_cases hc : missing cids m.config <;> cases hf : m.layers.find? (missing cids) <;>
    simp [hc, eq_comm]

end Ripfs
