import ClassDiagram.Proofs.Attempt
import ClassDiagram.Template.Standard

/-!
# Templates with listings

A template that extends no other one is drawn piece by piece (`draw_eq_mapM`). A section of the
standard template is a title and a loop over a listing. The loop draws each element once, in order,
with line feeds around it, and stops at the first one that cannot be drawn (`drawAll_listing`).
-/
namespace ClassDiagram.Template
open Text

/-- Texts with line feeds around each of them. -/
def spaced (texts : List Text) : Text := texts.flatMap fun t => '\n' :: t ++ ['\n']

@[simp] theorem spaced_nil : spaced [] = [] := rfl

@[simp] theorem spaced_cons (t : Text) (texts : List Text) :
    spaced (t :: texts) = '\n' :: t ++ '\n' :: spaced texts := by
  simp [spaced]

namespace Value

/-- Whether a value is something that can be drawn. -/
def IsElement (v : Value) : Prop := ∃ kind drawn elements, v = .element kind drawn elements

def drawing : Value → Except ClassDiagram.Fault Text
  | .element _ drawn _ => drawn
  | _ => .ok []

end Value

/-- A name without a given meaning has none of its own. -/
theorem ownNames_eq_none (pieces : List Piece) {given : Context} {n : Text} (h : given n = none) :
    ownNames pieces given n = none := by
  rw [ownNames]
  split
  · exact h
  · rfl

mutual

/-- Whether a piece outside of blocks and loops may extend another template. -/
def Piece.extends : Piece → Bool
  | .extend _ => true
  | .onlyIf _ body otherwise => Piece.anyExtends body || Piece.anyExtends otherwise
  | .text _ => false
  | .place _ => false
  | .block _ _ _ => false
  | .each _ _ _ _ => false

def Piece.anyExtends : List Piece → Bool
  | [] => false
  | p :: ps => Piece.extends p || Piece.anyExtends ps

end

theorem drawAll_eq_mapM (s : Scope) (ps : List Piece) :
    Piece.drawAll s ps = (ps.mapM (Piece.draw s)).map List.flatten := by
  induction ps with
  | nil => rfl
  | cons p ps ih =>
    rw [Piece.drawAll, ih, List.mapM_cons]
    cases Piece.draw s p with
    | error f => rfl
    | ok t => cases ps.mapM (Piece.draw s) <;> rfl

section
variable {find : Text → Except ClassDiagram.Fault Template} {scope : Stage → Scope} {stage : Stage}

mutual

theorem drawTop_eq (hbase : stage.base = none) (p : Piece) (hp : Piece.extends p = false) :
    Piece.drawTop find scope stage p =
      (Piece.draw (scope stage) p).map fun t => (t, stage) := by
  cases p with
  | extend base => simp [Piece.extends] at hp
  | onlyIf test body otherwise =>
    obtain ⟨hbody, hotherwise⟩ : Piece.anyExtends body = false ∧
        Piece.anyExtends otherwise = false := by simpa [Piece.extends] using hp
    rw [Piece.drawTop, Piece.draw, drawAllTop_eq hbase body hbody,
      drawAllTop_eq hbase otherwise hotherwise]
    cases test.eval (scope stage) with
    | error f => rfl
    | ok v => cases hv : v.truth <;> simp [hv]
  | text t => rw [Piece.drawTop]; cases Piece.draw (scope stage) (.text t) <;> rfl
  | place e => rw [Piece.drawTop]; cases Piece.draw (scope stage) (.place e) <;> rfl
  | block name seesLoops body =>
    rw [Piece.drawTop, hbase]
    cases Piece.draw (scope stage) (.block name seesLoops body) <;> rfl
  | each var listing body otherwise =>
    rw [Piece.drawTop]
    cases Piece.draw (scope stage) (.each var listing body otherwise) <;> rfl

theorem drawAllTop_eq (hbase : stage.base = none) (ps : List Piece)
    (hps : Piece.anyExtends ps = false) :
    Piece.drawAllTop find scope stage ps =
      (Piece.drawAll (scope stage) ps).map fun t => (t, stage) := by
  cases ps with
  | nil => simp [Piece.drawAllTop, Piece.drawAll, Except.map]
  | cons p ps =>
    obtain ⟨hp, hps⟩ : Piece.extends p = false ∧ Piece.anyExtends ps = false := by
      simpa [Piece.anyExtends] using hps
    rw [Piece.drawAllTop, Piece.drawAll, drawTop_eq hbase p hp]
    cases Piece.draw (scope stage) p with
    | error f => rfl
    | ok t =>
      simp only [Except.map, ok_bind, drawAllTop_eq hbase ps hps]
      cases Piece.drawAll (scope stage) ps <;> rfl

end

end

/-- A template that extends no other one is drawn piece by piece. -/
theorem draw_eq_mapM (find : Text → Except ClassDiagram.Fault Template) (context : Context)
    {t : Template} (h : Piece.anyExtends t.pieces = false) (fuel : Nat) :
    t.draw find context (fuel + 1) =
      (t.pieces.mapM (Piece.draw (Stage.scope context t.pieces ⟨t.blocks, none⟩))).map
        List.flatten := by
  rw [draw, drawWith, drawAllTop_eq rfl t.pieces h, drawAll_eq_mapM]
  cases t.pieces.mapM (Piece.draw (Stage.scope context t.pieces ⟨t.blocks, none⟩)) <;> rfl

section
variable {s : Scope}

theorem value_eq_of_context {n : Text} {v : Value} (hbound : s.bound = []) (hown : s.own n = none)
    (hcontext : s.context n = some v) : s.value n = v := by
  simp [Scope.value, hbound, hown, hcontext]

theorem draw_text (hsilent : s.silent = false) (t : Text) : Piece.draw s (.text t) = .ok t := by
  simp [Piece.draw, hsilent]

theorem draw_underFlag (hsilent : s.silent = false) {withDependencies : Bool}
    (hvalue : s.value dependencyFlag = .constant (.flag withDependencies)) (inner : Piece) :
    Piece.draw s (.onlyIf (.name dependencyFlag) [.text "\n".toList, inner, .text "\n".toList] []) =
      if withDependencies then
        (Piece.draw s inner).map fun t => "\n".toList ++ t ++ "\n".toList
      else .ok [] := by
  rw [Piece.draw, Expr.eval, hvalue]
  cases withDependencies with
  | false => rfl
  | true =>
    simp only [ok_bind, Value.truth, if_true]
    rw [drawAll_eq_mapM, List.mapM_cons, List.mapM_cons, List.mapM_cons, List.mapM_nil,
      draw_text hsilent]
    cases Piece.draw s inner with
    | error f => rfl
    | ok t =>
      simp only [Except.map, ok_bind, pure_eq_ok, List.flatten_cons, List.flatten_nil,
        List.append_nil, List.append_assoc]

theorem eval_drawn {var : Text} {v : Value} (hv : v.IsElement) :
    (Expr.call (.field (.name var) "render".toList)).eval (s.bind var v) =
      v.drawing.map fun t => .constant (.text t) := by
  obtain ⟨kind, drawn, elements, rfl⟩ := hv
  have hvar : (s.bind var (.element kind drawn elements)).value var =
      .element kind drawn elements := by
    simp [Scope.value, Scope.bind]
  have hfield : (Value.element kind drawn elements).field "render".toList = .ok (.method drawn) :=
    rfl
  rw [Expr.eval, Expr.eval, Expr.eval, hvar, ok_bind, hfield, ok_bind, Value.call, Value.drawing]

/-- One turn of the loop over a listing. -/
theorem drawAll_turn (hsilent : s.silent = false) {var : Text} {v : Value} (hv : v.IsElement) :
    Piece.drawAll (s.bind var v) [.text ['\n'], drawn var, .text ['\n']] =
      v.drawing.map fun t => '\n' :: t ++ ['\n'] := by
  have hinner : (s.bind var v).silent = false := hsilent
  have hplace : Piece.draw (s.bind var v) (drawn var) = v.drawing := by
    rw [drawn, Piece.draw, hinner, eval_drawn hv]
    cases v.drawing <;> rfl
  rw [Piece.drawAll, Piece.drawAll, Piece.drawAll, draw_text hinner, hplace]
  cases v.drawing <;> rfl

/-- A loop whose turns draw one element each draws them all in order. -/
theorem mapM_turn {turn : Value → Except ClassDiagram.Fault Text} {vs : List Value}
    (h : ∀ v ∈ vs, turn v = v.drawing.map fun t => '\n' :: t ++ ['\n']) :
    (vs.mapM turn).map List.flatten = (vs.mapM Value.drawing).map spaced := by
  induction vs with
  | nil => rfl
  | cons v vs ih =>
    have hrest := ih fun w hw => h w (by simp [hw])
    rw [List.mapM_cons, List.mapM_cons, h v (by simp)]
    cases v.drawing with
    | error f => rfl
    | ok t =>
      cases hturns : vs.mapM turn with
      | error f => cases hdrawings : vs.mapM Value.drawing <;> simp_all [Except.map]
      | ok shown => cases hdrawings : vs.mapM Value.drawing <;> simp_all [Except.map]

/-- A section: what stands in front of the loop, the elements of the listing, and a line feed. -/
theorem drawAll_listing (hsilent : s.silent = false) (lead var listing : Text) {vs : List Value}
    (hlisting : s.value listing = .listing vs) (hvs : ∀ v ∈ vs, v.IsElement) :
    Piece.drawAll s [.text lead, elements var listing, .text ['\n']] =
      (vs.mapM Value.drawing).map fun texts => lead ++ spaced texts ++ ['\n'] := by
  have hloop : Piece.draw s (elements var listing) = (vs.mapM Value.drawing).map spaced := by
    rw [elements, Piece.draw, Expr.eval, hlisting, ok_bind]
    simp only [Value.elements, ok_bind]
    rw [← mapM_turn fun v hv => drawAll_turn hsilent (hvs v hv)]
    cases vs with
    | nil => rfl
    | cons v vs =>
      rw [if_neg (by simp)]
      cases (v :: vs).mapM fun v =>
        Piece.drawAll (s.bind var v) [.text ['\n'], drawn var, .text ['\n']] <;> rfl
  rw [Piece.drawAll, Piece.drawAll, Piece.drawAll, draw_text hsilent, draw_text hsilent, hloop]
  cases vs.mapM Value.drawing with
  | error f => rfl
  | ok texts => simp [Except.map, Piece.drawAll]

end

theorem drawBlock_listing {blocks : List Block} {context : Context} {name lead var : Text}
    (listing : Text) {vs : List Value}
    (hbody : layers blocks name = [[.text lead, elements var listing, .text ['\n']]])
    (hname : listing ∉ ["super".toList, "self".toList])
    (hlisting : context listing = some (.listing vs)) (hvs : ∀ v ∈ vs, v.IsElement) (fuel : Nat) :
    drawBlock blocks (fuel + 1) context name 0 =
      (vs.mapM Value.drawing).map fun texts => lead ++ spaced texts ++ ['\n'] := by
  simp only [List.mem_cons, List.not_mem_nil, or_false, not_or] at hname
  rw [drawBlock, hbody]
  refine drawAll_listing rfl lead var listing (value_eq_of_context rfl ?_ hlisting) hvs
  dsimp only
  apply ownNames_eq_none
  rw [if_neg hname.1, if_neg hname.2]

end ClassDiagram.Template
