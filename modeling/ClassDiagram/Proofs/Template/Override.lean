import ClassDiagram.Proofs.Template.Listing

/-!
# Templates that override blocks of the standard one

The standard template is a page with six named blocks, one of them under a condition, and what it
shows is that page around the outputs of the blocks (`drawWith_standard`). A template that extends it
and has blocks of literal text shows the same page. The outputs of the blocks that it names are then
its own texts, and those of the other ones are what they are without it (`draw_override`).
-/
namespace ClassDiagram.Template
open Text

inductive StandardBlock where
  | preamble
  | objects
  | inheritance
  | aggregation
  | dependency
  | nested
  deriving DecidableEq, Repr

namespace StandardBlock

def name : StandardBlock → Text
  | .preamble => "preamble".toList
  | .objects => "objects".toList
  | .inheritance => "inheritance".toList
  | .aggregation => "aggregation".toList
  | .dependency => "dependency".toList
  | .nested => "nested".toList

theorem name_injective {a b : StandardBlock} (h : a.name = b.name) : a = b := by
  revert h
  cases a <;> cases b <;> decide

/-- The block of dependencies is shown under the flag only. -/
def IsShown (withDependencies : Bool) (b : StandardBlock) : Prop :=
  b = .dependency → withDependencies = true

end StandardBlock

/-- The standard template around the outputs of its blocks. -/
def page (withDependencies : Bool) (shown : StandardBlock → Text) : Text :=
  "@startuml\n\n".toList ++ shown .preamble ++ "\n\n".toList ++ shown .objects ++ "\n\n".toList
    ++ shown .inheritance ++ "\n\n".toList ++ shown .aggregation ++ "\n".toList
    ++ (if withDependencies then "\n".toList ++ shown .dependency ++ "\n".toList else [])
    ++ "\n\n".toList ++ shown .nested ++ "\n\n@enduml\n".toList

/-- The page around blocks that may fail. -/
def drawPage (withDependencies : Bool) (output : StandardBlock → Except ClassDiagram.Fault Text) :
    Except ClassDiagram.Fault Text := do
  let preamble ← output .preamble
  let objects ← output .objects
  let inheritance ← output .inheritance
  let aggregation ← output .aggregation
  let dependency ← (if withDependencies then output .dependency else .ok [])
  let nested ← output .nested
  return page withDependencies fun
    | .preamble => preamble
    | .objects => objects
    | .inheritance => inheritance
    | .aggregation => aggregation
    | .dependency => dependency
    | .nested => nested

theorem drawPage_eq_ok_iff {withDependencies : Bool}
    {output : StandardBlock → Except ClassDiagram.Fault Text} {t : Text} :
    drawPage withDependencies output = .ok t ↔
      ∃ shown, (∀ b, b.IsShown withDependencies → output b = .ok (shown b)) ∧
        t = page withDependencies shown := by
  simp only [drawPage, bind_eq_ok_iff, pure_eq_ok, Except.ok.injEq]
  constructor
  · rintro ⟨preamble, hpreamble, objects, hobjects, inheritance, hinheritance, aggregation,
      haggregation, dependency, hdependency, nested, hnested, rfl⟩
    refine ⟨_, fun b hb => ?_, rfl⟩
    cases b with
    | preamble => exact hpreamble
    | objects => exact hobjects
    | inheritance => exact hinheritance
    | aggregation => exact haggregation
    | dependency => rwa [hb rfl, if_pos rfl] at hdependency
    | nested => exact hnested
  · rintro ⟨shown, hshown, rfl⟩
    have hplain : ∀ b, b ≠ .dependency → output b = .ok (shown b) := fun b hb =>
      hshown b fun h => absurd h hb
    refine ⟨_, hplain .preamble (by decide), _, hplain .objects (by decide), _,
      hplain .inheritance (by decide), _, hplain .aggregation (by decide),
      if withDependencies then shown .dependency else [], ?_, _, hplain .nested (by decide), ?_⟩
    · cases withDependencies with
      | false => rfl
      | true => exact hshown .dependency fun _ => rfl
    · cases withDependencies <;> rfl

section
variable {context : Context} {withDependencies : Bool} {s : Scope}

/-- The pieces of the standard template make up its page. -/
theorem drawAll_standard (hsilent : s.silent = false)
    (hvalue : s.value dependencyFlag = .constant (.flag withDependencies))
    {output : StandardBlock → Except ClassDiagram.Fault Text}
    (hblock : ∀ b body, Piece.draw s (.block (StandardBlock.name b) false body) = output b) :
    Piece.drawAll s standard.pieces = drawPage withDependencies output := by
  have hpreamble : ∀ body, Piece.draw s (.block "preamble".toList false body) = output .preamble :=
    hblock .preamble
  have hobjects : ∀ body, Piece.draw s (.block "objects".toList false body) = output .objects :=
    hblock .objects
  have hinheritance : ∀ body,
      Piece.draw s (.block "inheritance".toList false body) = output .inheritance :=
    hblock .inheritance
  have haggregation : ∀ body,
      Piece.draw s (.block "aggregation".toList false body) = output .aggregation :=
    hblock .aggregation
  have hdependency : ∀ body,
      Piece.draw s (.block "dependency".toList false body) = output .dependency := hblock .dependency
  have hnested : ∀ body, Piece.draw s (.block "nested".toList false body) = output .nested :=
    hblock .nested
  rw [drawAll_eq_mapM]
  simp only [standard, listingBlock, List.mapM_cons, List.mapM_nil, draw_text hsilent, hpreamble,
    hobjects, hinheritance, haggregation, draw_underFlag hsilent hvalue, hdependency, hnested,
    ok_bind]
  unfold drawPage
  obtain f | preamble := output .preamble
  · rfl
  obtain f | objects := output .objects
  · rfl
  obtain f | inheritance := output .inheritance
  · rfl
  obtain f | aggregation := output .aggregation
  · rfl
  cases withDependencies with
  | false =>
    obtain f | nested := output .nested
    · rfl
    simp only [ok_bind, pure_eq_ok, Bool.false_eq_true, if_false, Except.map, List.flatten_cons,
      List.flatten_nil, List.append_nil]
    refine congrArg Except.ok ?_
    unfold page
    simp only [List.append_assoc, Bool.false_eq_true, if_false]
  | true =>
    obtain f | dependency := output .dependency
    · rfl
    obtain f | nested := output .nested
    · rfl
    simp only [ok_bind, pure_eq_ok, if_true, Except.map, List.flatten_cons, List.flatten_nil,
      List.append_nil]
    refine congrArg Except.ok ?_
    unfold page
    simp only [List.append_assoc, if_true]

/-- The standard template shows its page around the blocks in use. -/
theorem drawWith_standard (find : Text → Except ClassDiagram.Fault Template)
    (hflag : context dependencyFlag = some (.constant (.flag withDependencies))) (fuel : Nat)
    (blocks : List Block) :
    drawWith find context (fuel + 1) blocks standard =
      drawPage withDependencies fun b => drawBlock blocks blockLimit context b.name 0 := by
  have hpieces : Piece.drawAll (Stage.scope context standard.pieces ⟨blocks, none⟩) standard.pieces =
      drawPage withDependencies fun b => drawBlock blocks blockLimit context b.name 0 := by
    refine drawAll_standard rfl (value_eq_of_context rfl rfl hflag) fun b body => ?_
    rw [Piece.draw]
    rfl
  rw [drawWith, drawAllTop_eq rfl standard.pieces rfl, hpieces]
  generalize drawPage withDependencies _ = result
  cases result <;> rfl

end

/-- What may stand behind an extension: text, or a block of literal text. -/
inductive OverridePart where
  | text (t : Text)
  | block (name : Text) (seesLoops : Bool) (texts : List Text)

namespace OverridePart

def piece : OverridePart → Piece
  | .text t => .text t
  | .block name seesLoops texts => .block name seesLoops (texts.map .text)

def block? : OverridePart → Option Block
  | .text _ => none
  | .block name _ texts => some (name, texts.map .text)

def texts? (name : Text) : OverridePart → Option (List Text)
  | .text _ => none
  | .block n _ texts => if n = name then some texts else none

end OverridePart

/-- A template that extends another one and replaces blocks of it with literal texts. -/
structure Override where
  lead : List Text
  base : Text
  parts : List OverridePart

namespace Override

def template (o : Override) : Template where
  pieces := o.lead.map .text ++ .extend (.constant (.text o.base)) :: o.parts.map OverridePart.piece

/-- The text in place of a block, if there is one. -/
def replacement (o : Override) (name : Text) : Option Text :=
  (o.parts.findSome? (OverridePart.texts? name)).map List.flatten

end Override

theorem layers_append (blocks others : List Block) (name : Text) :
    layers (blocks ++ others) name = layers blocks name ++ layers others name := by
  simp [layers]

theorem Piece.allBlocks_append (ps qs : List Piece) :
    Piece.allBlocks (ps ++ qs) = Piece.allBlocks ps ++ Piece.allBlocks qs := by
  induction ps with
  | nil => simp [Piece.allBlocks]
  | cons p ps ih => simp [Piece.allBlocks, ih]

theorem Piece.allBlocks_map_text (texts : List Text) : Piece.allBlocks (texts.map .text) = [] := by
  induction texts with
  | nil => simp [Piece.allBlocks]
  | cons t texts ih => simp [Piece.allBlocks, Piece.blocks, ih]

theorem Override.blocks_template (o : Override) :
    o.template.blocks = o.parts.filterMap OverridePart.block? := by
  have hparts : ∀ parts : List OverridePart, Piece.allBlocks (parts.map OverridePart.piece) =
      parts.filterMap OverridePart.block? := by
    intro parts
    induction parts with
    | nil => simp [Piece.allBlocks]
    | cons part parts ih =>
      rw [List.map_cons, Piece.allBlocks, ih, List.filterMap_cons]
      cases part with
      | text t => simp [OverridePart.piece, Piece.blocks, OverridePart.block?]
      | block name seesLoops texts =>
        simp [OverridePart.piece, Piece.blocks, Piece.allBlocks_map_text, OverridePart.block?]
  rw [Template.blocks, Override.template, Piece.allBlocks_append, Piece.allBlocks_map_text,
    List.nil_append, Piece.allBlocks, Piece.blocks, List.nil_append, hparts]

theorem Override.layers_template (o : Override) (name : Text) :
    layers o.template.blocks name =
      (o.parts.filterMap (OverridePart.texts? name)).map fun texts => texts.map .text := by
  rw [blocks_template]
  induction o.parts with
  | nil => rfl
  | cons part parts ih =>
    cases part with
    | text t => exact ih
    | block n seesLoops texts =>
      have hcons : layers ((n, texts.map Piece.text) :: parts.filterMap OverridePart.block?) name =
          layers [(n, texts.map Piece.text)] name ++
            layers (parts.filterMap OverridePart.block?) name :=
        layers_append [_] _ name
      rw [List.filterMap_cons, List.filterMap_cons]
      simp only [OverridePart.block?, OverridePart.texts?, hcons, ih]
      by_cases hn : n = name <;> simp [layers, hn]

theorem drawAll_literal {s : Scope} (hsilent : s.silent = false) (texts : List Text) :
    Piece.drawAll s (texts.map .text) = .ok texts.flatten := by
  have htexts : texts.mapM (Piece.draw s ∘ Piece.text) = .ok (texts.map id) :=
    mapM_eq_ok fun t _ => draw_text hsilent t
  rw [drawAll_eq_mapM, List.mapM_map, htexts, List.map_id]
  rfl

/-- A block of literal text is that text. -/
theorem drawBlock_literal {blocks : List Block} {name : Text} {texts : List Text}
    {below : List (List Piece)} (h : layers blocks name = texts.map .text :: below) (fuel : Nat)
    (context : Context) : drawBlock blocks (fuel + 1) context name 0 = .ok texts.flatten := by
  rw [drawBlock, h, List.getD_cons_zero]
  exact drawAll_literal rfl texts

section
variable {find : Text → Except ClassDiagram.Fault Template} {context : Context}
  {pieces : List Piece} {blocks : List Block}

/-- Behind an extension texts and blocks are left out. -/
theorem drawAllTop_parts (t : Template) (parts : List OverridePart) :
    Piece.drawAllTop find (Stage.scope context pieces) ⟨blocks, some t⟩
      (parts.map OverridePart.piece) = .ok ([], ⟨blocks, some t⟩) := by
  induction parts with
  | nil => simp [Piece.drawAllTop]
  | cons part parts ih =>
    rw [List.map_cons, Piece.drawAllTop]
    cases part with
    | text t =>
      rw [OverridePart.piece, Piece.drawTop, Piece.draw]
      simp [Stage.scope, ih]
    | block name seesLoops texts =>
      rw [OverridePart.piece, Piece.drawTop]
      simp [ih]

/-- An extension brings in the blocks of the other template, behind those in use. -/
theorem drawTop_extend {base : Text} {t : Template} (hbase : find base = .ok t) :
    Piece.drawTop find (Stage.scope context pieces) ⟨blocks, none⟩
      (.extend (.constant (.text base))) = .ok ([], ⟨blocks ++ t.blocks, some t⟩) := by
  rw [Piece.drawTop, Expr.eval]
  simp [Value.templateName, hbase]

/-- The pieces of an overriding template show what stands in front of the extension. -/
theorem drawAllTop_override {base : Text} {t : Template} (hbase : find base = .ok t)
    (lead : List Text) (parts : List OverridePart) :
    Piece.drawAllTop find (Stage.scope context pieces) ⟨blocks, none⟩
      (lead.map .text ++ .extend (.constant (.text base)) :: parts.map OverridePart.piece) =
        .ok (lead.flatten, ⟨blocks ++ t.blocks, some t⟩) := by
  induction lead with
  | nil =>
    rw [List.map_nil, List.nil_append, Piece.drawAllTop, drawTop_extend hbase]
    simp [drawAllTop_parts]
  | cons u lead ih =>
    have htext : Piece.draw (Stage.scope context pieces ⟨blocks, none⟩) (.text u) = .ok u :=
      draw_text rfl u
    rw [List.map_cons, List.cons_append, Piece.drawAllTop, Piece.drawTop, htext]
    simp [ih]

end

/-- An overriding template shows the page of the standard one around its own blocks and the standard
ones that they do not replace, behind what stands in front of the extension. -/
theorem draw_override {find : Text → Except ClassDiagram.Fault Template} {context : Context}
    {withDependencies : Bool}
    (hflag : context dependencyFlag = some (.constant (.flag withDependencies))) {o : Override}
    (hbase : find o.base = .ok standard) (fuel : Nat) :
    o.template.draw find context (fuel + 2) =
      (drawPage withDependencies fun b =>
        drawBlock (o.template.blocks ++ standard.blocks) blockLimit context b.name 0).map
        (o.lead.flatten ++ ·) := by
  rw [← drawWith_standard find hflag fuel]
  have hpieces : Piece.drawAllTop find (Stage.scope context o.template.pieces)
      ⟨o.template.blocks, none⟩ o.template.pieces =
        .ok (o.lead.flatten, ⟨o.template.blocks ++ standard.blocks, some standard⟩) :=
    drawAllTop_override hbase o.lead o.parts
  rw [draw, drawWith, hpieces]
  dsimp only [ok_bind]
  cases drawWith find context (fuel + 1) (o.template.blocks ++ standard.blocks) standard <;> rfl

end ClassDiagram.Template
