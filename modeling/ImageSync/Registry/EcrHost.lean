import ImageSync.Text.Cut

/-!
# `ImageSync.Registry.EcrHost`: hosts of managed ECR registries

A managed ECR registry has the host `<account>.dkr.ecr.<region>.amazonaws.com`, with a
final `.cn` in the China partition. `EcrHost` holds the three parts that vary,
`EcrHost.render` writes the host and `EcrHost.identify` reads it back. Reading looks at the
form only: the account and the region may be any labels, even empty ones.

Main statement: reading accepts exactly what writing gives for parts without a dot
(`identifyLabels_eq_some_iff`, over the labels of the host).
-/

set_option autoImplicit false

namespace ImageSync

/-- The group of regions a managed registry belongs to. -/
inductive EcrPartition where
  | global
  | china
  deriving DecidableEq, Repr

/-- A managed ECR registry, by the parts of its host. -/
structure EcrHost where
  /-- The account the registry belongs to. -/
  account : String
  /-- The region the registry is in. -/
  region : String
  partition : EcrPartition
  deriving DecidableEq, Repr

namespace EcrHost

/-- The host of a registry. -/
def render (h : EcrHost) : String :=
  h.account ++ ".dkr.ecr." ++ h.region ++ ".amazonaws.com" ++
    match h.partition with
    | .global => ""
    | .china => ".cn"

/-- Whether the registry is in the China partition. -/
def isChina (h : EcrHost) : Bool := h.partition == .china

/-- The registry that a host, cut at its dots, names. -/
def identifyLabels : List (List Char) → Option EcrHost
  | [account, ['d', 'k', 'r'], ['e', 'c', 'r'], region,
      ['a', 'm', 'a', 'z', 'o', 'n', 'a', 'w', 's'], ['c', 'o', 'm']] =>
    some ⟨String.ofList account, String.ofList region, .global⟩
  | [account, ['d', 'k', 'r'], ['e', 'c', 'r'], region,
      ['a', 'm', 'a', 'z', 'o', 'n', 'a', 'w', 's'], ['c', 'o', 'm'], ['c', 'n']] =>
    some ⟨String.ofList account, String.ofList region, .china⟩
  | _ => none

/-- The managed registry that a host names, if it names one. -/
def identify (host : String) : Option EcrHost :=
  identifyLabels (Text.splitAtChar '.' host.toList)

/-- The labels of the host of a registry. -/
def labels (h : EcrHost) : List (List Char) :=
  [h.account.toList, ['d', 'k', 'r'], ['e', 'c', 'r'], h.region.toList,
      ['a', 'm', 'a', 'z', 'o', 'n', 'a', 'w', 's'], ['c', 'o', 'm']] ++
    match h.partition with
    | .global => []
    | .china => [['c', 'n']]

/-- Labels name a registry exactly when they are the labels of its host. -/
theorem identifyLabels_eq_some_iff {ls : List (List Char)} {h : EcrHost} :
    identifyLabels ls = some h ↔ ls = h.labels := by
  obtain ⟨account, region, part⟩ := h
  unfold identifyLabels
  split
  · cases part <;> simp [labels, ← String.toList_inj]
  · cases part <;> simp [labels, ← String.toList_inj]
  · next hglobal hchina =>
    -- Labels of neither form are not those of any registry.
    constructor
    · simp
    · rintro rfl
      cases part
      · exact absurd rfl (hglobal _ _)
      · exact absurd rfl (hchina _ _)

end EcrHost

end ImageSync
