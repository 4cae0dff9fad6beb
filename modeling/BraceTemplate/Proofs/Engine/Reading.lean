import BraceTemplate.Proofs.Engine.Block
import BraceTemplate.Proofs.Template.Level

/-!
# Openers as they are parsed and as they are rendered

Parsing names a block and parts its branches by the raw expression of its
opener; rendering reads the expression again before it looks the path up.  Both
take the same expressions for conditions, and the path of any other is the token
of its block, but for escaped signs.
-/

namespace BraceTemplate

variable {H W : Type}

theorem block_of_mem_levels {t : Text} {level : List Node}
    (hlevel : level ∈ Node.levels (parseTemplate t)) {opening : Opening} {token : Text}
    {children : List Node} {index : Option Nat}
    (hblock : Node.block opening token children index ∈ level) :
    token = blockToken opening.body ∧ index = Node.separatorIndexOf opening.body children := by
  rw [parseTemplate_eq_tree] at hlevel
  obtain ⟨part, last, rfl, -⟩ := exists_eq_treeOfTags hlevel
  obtain ⟨before, after, hsplit⟩ := List.append_of_mem hblock
  obtain ⟨-, -, htoken, hseparated⟩ :=
    maximal_treeOfTags part last _ after ⟨before, hsplit.symm⟩
  refine ⟨htoken, Option.ext fun position => ?_⟩
  rw [hseparated.index_iff, (separated_separatorIndexOf opening.body children).index_iff]

namespace Render

/--
What parsing decides by an expression without segments is what rendering reads
in it, whatever separates the arguments of filters.
-/
theorem directiveOf_agrees (nested : Nested H W) (env : Environment H W) {opening : Opening}
    (h : Backtick.mark ∉ opening.body) (context : Value H) (loop : Option Iteration) :
    ∃ directive, directiveOf nested env opening context loop = pure directive ∧
      directive.conditional = isConditional opening.body ∧
      (directive.conditional = false →
        directive.path =
          String.ofList (Text.replace Directive.escapedSign ['>'] (blockToken opening.body))) ∧
      ∀ t, ∀ level ∈ Node.levels (parseTemplate t), ∀ token children index,
        .block opening token children index ∈ level →
          token = blockToken opening.body ∧
            index = if directive.conditional then children.findIdx? Node.isSeparator else none := by
  have hconditional := Directive.conditional_read env.settings.delimiter.toList opening.body
    opening.selfClosing
  refine ⟨_, directiveOf_of_not_mem nested env h context loop, hconditional, ?_, ?_⟩
  · intro hplain
    exact Directive.path_read (hconditional.symm.trans hplain) _ _
  · intro t level hlevel token children index hblock
    rw [hconditional]
    exact block_of_mem_levels hlevel hblock

theorem directiveOf_agrees_escaped :
    let body := " a&gt;b |upcase".toList
    let opening : Opening := ⟨⟨body⟩, body, false⟩
    let tree := parseTemplate "{{ a&gt;b |upcase}}{{else}}{{/a&gt;b}}".toList
    (∃ children, Node.block opening "a&gt;b".toList children none ∈ tree) ∧
      ∃ directive, directiveOf (nodesText (Engine.initial : Engine Empty Unit).toEnvironment 1)
          (Engine.initial : Engine Empty Unit).toEnvironment opening .null none = pure directive ∧
        directive.conditional = false ∧ directive.path = "a>b" := by
  intro body opening tree
  have hsegments : Backtick.mark ∉ opening.body := by decide +kernel
  obtain ⟨directive, hread, hconditional, hpath, hparsed⟩ :=
    directiveOf_agrees (nodesText (Engine.initial : Engine Empty Unit).toEnvironment 1)
      (Engine.initial : Engine Empty Unit).toEnvironment hsegments .null none
  have hplain : directive.conditional = false := hconditional.trans (by decide +kernel)
  have hname : blockToken body = "a&gt;b".toList := by decide +kernel
  have htext : "{{ a&gt;b |upcase}}{{else}}{{/a&gt;b}}".toList =
      Tag.text ⟨body⟩ ++ ("{{else}}".toList ++ (Tag.text ⟨"/a&gt;b".toList⟩ ++ [])) := by
    decide +kernel
  have htoken : Tag.openingToken? ⟨body⟩ = some "a&gt;b".toList := by decide +kernel
  have hcloser : Tag.closes "a&gt;b".toList ⟨"/a&gt;b".toList⟩ = true := by decide +kernel
  have helse : IsBody "a&gt;b".toList "{{else}}".toList := by decide +kernel
  have htree := parseTemplate_block (by decide +kernel) (by decide +kernel) htoken hcloser
    helse.isSealed helse.balanced []
  rw [← htext] at htree
  have hmem : Node.block opening (blockToken body) (parseTemplate "{{else}}".toList)
      (Node.separatorIndexOf body (parseTemplate "{{else}}".toList)) ∈ tree := by
    rw [show tree = _ from htree]
    exact List.mem_cons_self
  obtain ⟨-, hindex⟩ := hparsed _ tree List.mem_cons_self _ _ _ hmem
  rw [hplain, if_neg Bool.false_ne_true] at hindex
  rw [hname, hindex] at hmem
  exact ⟨⟨_, hmem⟩, directive, hread, hplain, (hpath hplain).trans (by decide +kernel)⟩

end Render

end BraceTemplate
