import ClassDiagram.FileSystem.Drawing
import ClassDiagram.Proofs.Diagram.Grounding
import ClassDiagram.Proofs.Diagram.Layout
import ClassDiagram.Proofs.Template.Spelling

/-!
# Diagrams drawn with an overriding template

A template file that extends the standard template changes a drawn diagram only where it has blocks
of its own: the text is the page of the standard template with the output of each of these blocks
replaced. What stands in front of the extension is shown in front of the page, and nothing of what
stands behind it outside of blocks is.
-/
namespace ClassDiagram
open Text Template

namespace Diagram
variable (withDependencies : Bool) (d : Diagram)

/-- The output of a block of the standard template. -/
def blockOutput (b : StandardBlock) : Except Fault Text :=
  drawBlock standard.blocks blockLimit (d.context withDependencies) b.name 0

/-- A block that is not replaced has the same output beside other blocks. -/
theorem drawBlock_eq_blockOutput {blocks : List Block} (b : StandardBlock)
    (h : layers blocks b.name = layers standard.blocks b.name) :
    drawBlock blocks blockLimit (d.context withDependencies) b.name 0 =
      d.blockOutput withDependencies b := by
  have hlisting : ∀ {lead var : Text} (listing : Text) {vs : List Value},
      layers standard.blocks b.name = [[.text lead, elements var listing, .text ['\n']]] →
      listing ∉ ["super".toList, "self".toList] →
      d.context withDependencies listing = some (.listing vs) → (∀ {v}, v ∈ vs → v.IsElement) →
      drawBlock blocks blockLimit (d.context withDependencies) b.name 0 =
        d.blockOutput withDependencies b := by
    intro lead var listing vs hbody hname hcontext hvs
    have hvs' : ∀ v ∈ vs, v.IsElement := fun v hv => hvs hv
    rw [blockOutput, blockLimit, drawBlock_listing listing (h.trans hbody) hname hcontext hvs' 49,
      drawBlock_listing listing hbody hname hcontext hvs' 49]
  cases b with
  | preamble =>
    have hbody : layers standard.blocks StandardBlock.preamble.name = [['\n']].map .text :: [] := rfl
    rw [blockOutput, blockLimit, drawBlock_literal (h.trans hbody) 49, drawBlock_literal hbody 49]
  | objects =>
    exact hlisting "objects".toList rfl (by decide) rfl isElement_of_mem_treeElements
  | inheritance => exact hlisting "inheritance_list".toList rfl (by decide) rfl isElement_of_mem_links
  | aggregation => exact hlisting "aggregation_list".toList rfl (by decide) rfl isElement_of_mem_links
  | dependency => exact hlisting "dependency_list".toList rfl (by decide) rfl isElement_of_mem_links
  | nested => exact hlisting "nesting_list".toList rfl (by decide) rfl isElement_of_mem_links

/-- A block has the text that replaces it for its output, if there is one. -/
theorem drawBlock_override (o : Override) (b : StandardBlock) :
    drawBlock (o.template.blocks ++ standard.blocks) blockLimit (d.context withDependencies)
        b.name 0 =
      ((o.replacement b.name).map Except.ok).getD (d.blockOutput withDependencies b) := by
  have hlayers : layers (o.template.blocks ++ standard.blocks) b.name =
      ((o.parts.filterMap (OverridePart.texts? b.name)).map fun texts => texts.map .text)
        ++ layers standard.blocks b.name := by
    rw [layers_append, o.layers_template]
  rw [Override.replacement, ← List.head?_filterMap]
  cases hparts : o.parts.filterMap (OverridePart.texts? b.name) with
  | nil =>
    rw [hparts, List.map_nil, List.nil_append] at hlayers
    exact d.drawBlock_eq_blockOutput withDependencies b hlayers
  | cons texts rest =>
    rw [hparts, List.map_cons, List.cons_append] at hlayers
    exact drawBlock_literal hlayers 49 _

theorem renderStandard_eq_drawPage :
    d.renderStandard withDependencies = drawPage withDependencies (d.blockOutput withDependencies) :=
  drawWith_standard _ rfl 0 standard.blocks

/-- An overriding template shows the page with the replaced outputs. -/
theorem draw_override_eq_drawPage {find : Text → Except Fault Template} {o : Override}
    (hbase : find o.base = .ok standard) (fuel : Nat) :
    o.template.draw find (d.context withDependencies) (fuel + 2) =
      (drawPage withDependencies fun b =>
        ((o.replacement b.name).map Except.ok).getD (d.blockOutput withDependencies b)).map
        (o.lead.flatten ++ ·) := by
  rw [draw_override rfl hbase fuel]
  simp only [drawBlock_override]

end Diagram

namespace FileSystem
variable {fs : FileSystem} {file source : Text}

/-- A template file has a text, and no other template with the name of the standard one stands in its
directory. -/
structure HasTemplate (fs : FileSystem) (file source : Text) : Prop where
  text : ∃ path, templatePath (splitPath file).2 = some path ∧
    fs.templateIn (lexicalPath (splitPath file).1) path = some source
  alone : fs.templateIn (lexicalPath (splitPath file).1) [standardName] = none

theorem renderDiagram_standard (fs : FileSystem) (withDependencies : Bool) (d : Diagram) :
    fs.renderDiagram { withDependencies } d = d.renderStandard withDependencies := by
  have hfind : fs.findTemplate none standardName = .ok standard := by
    have hpath : templatePath standardName = some [standardName] := by decide
    rw [findTemplate, hpath]
    rfl
  rw [Diagram.renderStandard_eq_drawPage, renderDiagram]
  change (fs.findTemplate none standardName >>= _) = _
  rw [hfind]
  exact drawWith_standard _ rfl _ standard.blocks

theorem HasTemplate.renderDiagram_eq (h : fs.HasTemplate file source) {o : Override}
    (hparse : Template.parse source = .ok o.template)
    (hbase : templatePath o.base = some [standardName]) (withDependencies : Bool) (d : Diagram) :
    fs.renderDiagram { withDependencies, template := some file } d =
      (drawPage withDependencies fun b =>
        ((o.replacement b.name).map Except.ok).getD (d.blockOutput withDependencies b)).map
        (o.lead.flatten ++ ·) := by
  obtain ⟨path, hpath, hsource⟩ := h.text
  have hfile : fs.findTemplate (some file) (splitPath file).2 = .ok o.template := by
    rw [findTemplate, hpath]
    simp only [Option.bind_some, hsource, hparse, mapError_ok]
  have hstandard : fs.findTemplate (some file) o.base = .ok standard := by
    rw [findTemplate, hbase]
    simp only [Option.bind_some, h.alone, if_true]
  rw [renderDiagram]
  change (fs.findTemplate (some file) (splitPath file).2 >>= _) = _
  rw [hfile]
  exact d.draw_override_eq_drawPage withDependencies hstandard _

/-- The page with replaced outputs is the page of the texts that replace them. -/
theorem drawPage_replaced {withDependencies : Bool} {output : StandardBlock → Except Fault Text}
    {shown : StandardBlock → Text}
    (hshown : ∀ b, b.IsShown withDependencies → output b = .ok (shown b))
    (replaced : StandardBlock → Option Text) :
    drawPage withDependencies (fun b => ((replaced b).map Except.ok).getD (output b)) =
      .ok (page withDependencies fun b => (replaced b).getD (shown b)) := by
  refine drawPage_eq_ok_iff.2 ⟨_, fun b hb => ?_, rfl⟩
  cases replaced b with
  | none => exact hshown b hb
  | some t => rfl

/-- Overriding a block changes the output of that block and nothing else. A diagram that is drawn by
the standard template is a page around the outputs of the blocks. With a template that extends the
standard one and has literal texts for blocks of it, however it is written, the diagram is the same
page, where the outputs of these blocks are those texts; what the template has in front of the
extension comes first. Every template that is written with a tag for the extension and a pair of tags
for each block is such a one. -/
theorem overrides_are_local {withDependencies : Bool} {d : Diagram} {text : Text}
    (htext : d.renderStandard withDependencies = .ok text) :
    ∃ shown : StandardBlock → Text,
      (∀ b, b.IsShown withDependencies → d.blockOutput withDependencies b = .ok (shown b)) ∧
      text = page withDependencies shown ∧
      ∀ fs : FileSystem, fs.renderDiagram { withDependencies } d = .ok text ∧
        (∀ (file source : Text) (o : Override), fs.HasTemplate file source →
          Template.parse source = .ok o.template → templatePath o.base = some [standardName] →
          fs.renderDiagram { withDependencies, template := some file } d =
            .ok (o.lead.flatten
              ++ page withDependencies fun b => (o.replacement b.name).getD (shown b))) ∧
        ∀ (file lead gap : Text) (blocks : List WrittenBlock),
          fs.HasTemplate file (Template.source lead gap blocks) →
          IsLiteral lead → IsLiteral gap → (∀ w ∈ blocks, w.IsLiteral) →
          (blocks.map WrittenBlock.block).Nodup →
          fs.renderDiagram { withDependencies, template := some file } d =
            .ok (lead ++ page withDependencies fun b =>
              ((blocks.find? fun w => w.block = b).map WrittenBlock.body).getD (shown b)) := by
  have hpage := htext
  rw [Diagram.renderStandard_eq_drawPage] at hpage
  obtain ⟨shown, hshown, hpage⟩ := drawPage_eq_ok_iff.1 hpage
  have hoverride : ∀ (fs : FileSystem) (file source : Text) (o : Override),
      fs.HasTemplate file source → Template.parse source = .ok o.template →
      templatePath o.base = some [standardName] →
      fs.renderDiagram { withDependencies, template := some file } d =
        .ok (o.lead.flatten
          ++ page withDependencies fun b => (o.replacement b.name).getD (shown b)) := by
    intro fs file source o hfile hparse hbase
    rw [hfile.renderDiagram_eq hparse hbase, drawPage_replaced hshown fun b => o.replacement b.name]
    rfl
  refine ⟨shown, hshown, hpage, fun fs => ⟨?_, hoverride fs, ?_⟩⟩
  · rw [renderDiagram_standard, htext]
  · intro file lead gap blocks hfile hlead hgap hblocks hnodup
    have hparse := parse_source hlead hgap hblocks hnodup
    have hbase : templatePath (written lead gap blocks).base = some [standardName] :=
      show templatePath standardName = _ by decide
    rw [hoverride fs file _ _ hfile hparse hbase]
    simp only [replacement_written]
    rw [written, flatten_textsOf]

/-- The blocks of a template that replaces the preamble and the dependencies. -/
def restyling : List WrittenBlock :=
  [⟨.preamble, "left to right direction".toList, " and ".toList⟩, ⟨.dependency, "none".toList, []⟩]

/-- A directory with that template. -/
def restyled : FileSystem where
  files := [(["t".toList, "my.puml".toList], Template.source [] "\n".toList restyling)]
  folders := []

theorem overrides_are_local_restyled :
    ∃ (d : Diagram) (shown : StandardBlock → Text),
      d.names = ["A".toList, "B".toList] ∧ d.inheritance.length = 1 ∧
      d.renderStandard true = .ok (page true shown) ∧
      restyled.renderDiagram { withDependencies := true, template := some "t/my.puml".toList } d =
        .ok (page true fun b =>
          if b = .preamble then "left to right direction".toList
          else if b = .dependency then "none".toList
          else shown b) := by
  let d : Diagram := (({} : Diagram).create true
    [.ok (.ofClass "A".toList [] [] []), .ok (.ofClass "B".toList [] ["A".toList] [])]).1
  have hfile : restyled.HasTemplate "t/my.puml".toList
      (Template.source [] "\n".toList restyling) :=
    ⟨⟨["my.puml".toList], by decide +kernel, by decide +kernel⟩, by decide +kernel⟩
  have hliteral : ∀ w ∈ restyling, w.IsLiteral := by
    intro w hw
    rcases List.mem_cons.1 hw with rfl | hw
    · exact ⟨by decide +kernel, by decide +kernel⟩
    · obtain rfl := List.mem_singleton.1 hw
      exact ⟨by decide +kernel, by decide +kernel⟩
  have hok : (d.renderStandard true).isOk = true := by decide +kernel
  cases htext : d.renderStandard true with
  | error f =>
    rw [htext] at hok
    nomatch hok
  | ok text =>
    obtain ⟨shown, -, hpage, hfs⟩ := overrides_are_local htext
    have hrestyled := (hfs restyled).2.2 _ [] "\n".toList restyling hfile (by decide +kernel)
      (by decide +kernel) hliteral (by decide +kernel)
    refine ⟨d, shown, by decide +kernel, by decide +kernel, hpage ▸ htext, hrestyled.trans ?_⟩
    rw [List.nil_append]
    refine congrArg (fun shown => Except.ok (page true shown)) (funext fun b => ?_)
    cases b <;> rfl

end FileSystem

end ClassDiagram
