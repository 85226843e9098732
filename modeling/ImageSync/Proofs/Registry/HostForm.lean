import ImageSync.Proofs.Registry.Routing

/-!
# `ImageSync.Proofs.Registry.HostForm`: the hosts that name a managed registry

A host of a managed registry is an account and a region between fixed words, with `.cn` behind them
in the China partition. `EcrHost.HasForm` says so of a text, without a look at how it is read. The
parts hold no dots, but may be empty, or spell one of the words themselves.

The main statement is `identify_hasForm`: exactly the texts of this form are identified, and with
their parts. So a host has the form in one way only, it is written again from its parts, and the
partition, which is told from the number of labels, is that of the text's end. All of it follows
from `identify_eq_some_iff`.
-/

set_option autoImplicit false

namespace ImageSync.EcrHost

open Text

/-- A host is an account and a region without dots between the words of a managed registry, with
the word of the China partition behind them or not. -/
structure HasForm (host account region : String) (china : Bool) : Prop where
  noDot_account : '.' ∉ account.toList
  noDot_region : '.' ∉ region.toList
  text : host = account ++ ".dkr.ecr." ++ region ++ ".amazonaws.com" ++ if china then ".cn" else ""

/-- The registry with an account and a region, in one of the two partitions. -/
def ofParts (account region : String) (china : Bool) : EcrHost :=
  ⟨account, region, if china then .china else .global⟩

/-- A host that is put together from its parts is Chinese if it was said to be. -/
theorem isChina_ofParts (account region : String) (china : Bool) :
    (ofParts account region china).isChina = china := by
  cases china <;> rfl

/-- A host that is put together from its parts is written as they stand in a host. -/
theorem render_ofParts (account region : String) (china : Bool) :
    (ofParts account region china).render =
      account ++ ".dkr.ecr." ++ region ++ ".amazonaws.com" ++ if china then ".cn" else "" := by
  cases china <;> rfl

/-- A host is put together from its own parts. -/
theorem eq_ofParts (h : EcrHost) : h = ofParts h.account h.region h.isChina := by
  obtain ⟨account, region, part⟩ := h
  cases part <;> rfl

/-- A registry is identified exactly by the form that its host has. -/
theorem identify_eq_some_iff {host : String} {h : EcrHost} :
    identify host = some h ↔ HasForm host h.account h.region h.isChina := by
  constructor
  · intro hid
    -- The pieces between the dots are the labels, so these hold no dots.
    have hlabels : splitAtChar '.' host.toList = h.labels := identifyLabels_eq_some_iff.1 hid
    have hnodot : ∀ label ∈ h.labels, '.' ∉ label := fun label hlabel =>
      not_mem_of_mem_splitAtChar (hlabels ▸ hlabel)
    have hhost : host = h.render := by
      rw [← String.toList_inj, toList_render, ← hlabels, joinWith_splitAtChar]
    refine ⟨hnodot _ ?_, hnodot _ ?_, ?_⟩
    · simp [labels]
    · simp [labels]
    · rw [hhost, ← render_ofParts, ← eq_ofParts]
  · rintro ⟨haccount, hregion, rfl⟩
    rw [← render_ofParts, ← eq_ofParts]
    exact identify_render haccount hregion

/-- A text of the form ends with the word of the China partition exactly in that form. -/
theorem HasForm.suffix_iff {host account region : String} {china : Bool}
    (hform : HasForm host account region china) :
    china = true ↔ ".cn".toList <:+ host.toList := by
  rw [hform.text, String.toList_append]
  cases china with
  | true =>
    rw [if_pos rfl]
    exact ⟨fun _ => List.suffix_append _ _, fun _ => rfl⟩
  | false =>
    constructor
    · nofun
    · rintro ⟨front, hfront⟩
      -- The other form ends with another letter.
      have hlast := congrArg List.getLast? hfront
      rw [if_neg Bool.false_ne_true, String.toList_append, List.append_assoc,
        List.getLast?_append, List.getLast?_append] at hlast
      simp at hlast

/-- Exactly the hosts of the form name a managed registry, with the account and the region of the
form: there is only one way for a host to have it. The host is written again from the parts, and
the registry is one of the China partition exactly if its host ends so. -/
theorem identify_hasForm (host : String) :
    ((identify host).isSome = true ↔ ∃ account region china, HasForm host account region china) ∧
      (∀ account region china, HasForm host account region china →
        ∃ h, identify host = some h ∧ h.render = host ∧ h.account = account ∧
          h.region = region ∧ h.isChina = china) ∧
      (∀ account region china account' region' china', HasForm host account region china →
        HasForm host account' region' china' →
          account = account' ∧ region = region' ∧ china = china') ∧
      ∀ h, identify host = some h → h.render = host ∧
        HasForm host h.account h.region h.isChina ∧
        (h.isChina = true ↔ ".cn".toList <:+ host.toList) := by
  -- The form says which parts a host is identified by.
  have hidentify : ∀ account region china, HasForm host account region china →
      identify host = some (ofParts account region china) := by
    intro account region china hform
    rw [identify_eq_some_iff, isChina_ofParts]
    exact hform
  refine ⟨⟨fun hsome => ?_, ?_⟩, ?_, ?_, ?_⟩
  · obtain ⟨h, hid⟩ := Option.isSome_iff_exists.1 hsome
    exact ⟨_, _, _, identify_eq_some_iff.1 hid⟩
  · rintro ⟨account, region, china, hform⟩
    rw [hidentify account region china hform]
    rfl
  · intro account region china hform
    refine ⟨_, hidentify account region china hform, ?_, rfl, rfl, isChina_ofParts ..⟩
    rw [render_ofParts, ← hform.text]
  · intro account region china account' region' china' hform hform'
    have hsame := (hidentify account region china hform).symm.trans
      (hidentify account' region' china' hform')
    have hchina := congrArg isChina (Option.some.inj hsame)
    rw [isChina_ofParts, isChina_ofParts] at hchina
    have hparts := Option.some.inj hsame
    exact ⟨congrArg EcrHost.account hparts, congrArg EcrHost.region hparts, hchina⟩
  · intro h hid
    have hform := identify_eq_some_iff.1 hid
    refine ⟨?_, hform, hform.suffix_iff⟩
    rw [hform.text, ← render_ofParts, ← eq_ofParts]

/-- Hosts with an empty part and with parts that spell the words between them. -/
theorem identify_hasForm_words :
    (HasForm "com.dkr.ecr.cn.amazonaws.com" "com" "cn" false ∧
      HasForm ".dkr.ecr.dkr.amazonaws.com.cn" "" "dkr" true) ∧
      identify "com.dkr.ecr.cn.amazonaws.com" = some ⟨"com", "cn", .global⟩ ∧
      identify ".dkr.ecr.dkr.amazonaws.com.cn" = some ⟨"", "dkr", .china⟩ := by
  have hglobal : HasForm "com.dkr.ecr.cn.amazonaws.com" "com" "cn" false :=
    ⟨by decide, by decide, by decide⟩
  have hchina : HasForm ".dkr.ecr.dkr.amazonaws.com.cn" "" "dkr" true :=
    ⟨by decide, by decide, by decide⟩
  refine ⟨⟨hglobal, hchina⟩, ?_, ?_⟩
  · obtain ⟨h, hid, -, haccount, hregion, hpart⟩ :=
      (identify_hasForm _).2.1 _ _ _ hglobal
    rw [hid, eq_ofParts h, haccount, hregion, hpart]
    rfl
  · obtain ⟨h, hid, -, haccount, hregion, hpart⟩ :=
      (identify_hasForm _).2.1 _ _ _ hchina
    rw [hid, eq_ofParts h, haccount, hregion, hpart]
    rfl

end ImageSync.EcrHost
