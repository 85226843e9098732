import ImageSync.Regex.Template

/-!
# `ImageSync.Proofs.Regex.Template`: what replacement texts give

A replacement text without `$` is put in as it is (`Template.parse_plain` with
`Template.expand_plain`), and one that ends with `$1` is put in with what the first group took
behind it (`Template.expand_group_one`).
-/

set_option autoImplicit false

namespace ImageSync.Regex.Template

variable {cs : List Char}

/-- Without a reference sign, a replacement text stands for itself. -/
theorem parse_append (h : '$' ∉ cs) (rest : List Char) :
    parse (cs ++ rest) = cs.map .char ++ parse rest := by
  induction cs with
  | nil => rfl
  | cons c r ih =>
    obtain ⟨hc, hr⟩ := not_or.1 (mt List.mem_cons.2 h)
    rw [List.cons_append, parse, if_neg (Ne.symm hc), ih hr]
    rfl

/-- A template without dollar signs is its own text. -/
theorem parse_plain (h : '$' ∉ cs) : parse cs = cs.map .char := by
  have happend := parse_append h []
  rwa [parse, List.append_nil, List.append_nil] at happend

/-- The parts of a template are expanded one by one. -/
theorem expand_append (names : List (List Char × Nat)) (m : Match)
    (parts parts' : List TemplatePart) :
    expand names m (parts ++ parts') = expand names m parts ++ expand names m parts' :=
  List.flatMap_append

/-- Plain characters are expanded to themselves. -/
theorem expand_plain (names : List (List Char × Nat)) (m : Match) :
    expand names m (cs.map .char) = cs := by
  induction cs with
  | nil => rfl
  | cons c r ih => exact congrArg (c :: ·) ih

/-- The reference to the first group, behind plain text, gives what the group took. -/
theorem expand_group_one (h : '$' ∉ cs) (names : List (List Char × Nat)) {m : Match}
    {taken : List Char} (hm : m.groupText? 1 = some taken) :
    expand names m (parse (cs ++ ['$', '1'])) = cs ++ taken := by
  have hgroup : parse ['$', '1'] = [.group 1] := by decide +kernel
  have htaken : expand names m [.group 1] = taken := by
    rw [expand, List.flatMap_singleton, TemplatePart.expand, hm]
    rfl
  rw [parse_append h, hgroup, expand_append, expand_plain, htaken]

end ImageSync.Regex.Template
