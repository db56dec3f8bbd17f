import ClassDiagram.Proofs.Template.Cutting
import ClassDiagram.Proofs.Template.Override
import ClassDiagram.Proofs.Text.Lines
import ClassDiagram.Template.Reading

/-!
# How overriding templates are written

A template text that extends the standard template and has a tag before and behind each literal text
that replaces a block is read as just that (`parse_source`). Its tokens are read from the left, and
each part is followed with whatever comes behind it left open (`Reads`).
-/
namespace ClassDiagram.Template
open Text

/-- No token that comes next tells of a text that cannot be cut. -/
def IsClean (ts : List Token) : Prop := ∀ f, ts.head? ≠ some (.bad f)

theorem advance_of_isClean {r : List Token} (h : IsClean r) (t : Token) :
    advance (t :: r) = .ok r := by
  cases r with
  | nil => rfl
  | cons u r =>
    cases u with
    | bad f => exact absurd rfl (h f)
    | _ => rfl

/-- Tokens are read as the rest of a template, with at least as many steps as there are tokens. -/
structure Reads (d : Draft) (ts : List Token) (pieces : List Piece) : Prop where
  isClean : IsClean ts
  read : ∀ fuel, ts.length ≤ fuel → d.read fuel ts = .ok pieces

theorem readExpr_string (t : Text) (r : List Token) :
    readExpr (.string t :: .tagEnd :: r) = .ok (.constant (.text t), .tagEnd :: r) := rfl

theorem isClean_cons {t : Token} (h : ∀ f, t ≠ .bad f) (r : List Token) : IsClean (t :: r) := by
  intro f hf
  exact h f (Option.some.inj hf)

theorem expectEnd_of_isClean {r : List Token} (h : IsClean r) : expectEnd (.tagEnd :: r) = .ok r := by
  have hhead : (Token.tagEnd :: r).head? = some Token.tagEnd := rfl
  rw [expectEnd, expect, if_pos hhead, advance_of_isClean h]

namespace Draft
variable {ps : List Piece} {r : List Token}

theorem readTag_outer {name : Text} {ts : List Token}
    (hname : ["block", "for", "if", "extends"].contains (String.ofList name) = true)
    (hts : IsClean ts) :
    (⟨ps, []⟩ : Draft).readTag (.name name :: ts) =
      (⟨ps, []⟩ : Draft).readOpening name ts := by
  unfold readTag readKnown
  dsimp only
  rw [if_pos hname, advance_of_isClean hts]
  rfl

theorem readTag_extends (t : Text) (hr : IsClean r) :
    (⟨ps, []⟩ : Draft).readTag (.name "extends".toList :: .string t :: .tagEnd :: r) =
      .ok (⟨.extend (.constant (.text t)) :: ps, []⟩, r) := by
  rw [readTag_outer (by decide +kernel) (isClean_cons (by simp) _), readOpening,
    if_neg (by decide), if_neg (by decide), if_neg (by decide), if_pos rfl, readExpr_string, ok_bind]
  dsimp only
  rw [expectEnd_of_isClean hr]
  rfl

theorem readTag_block (name : Text) (hr : IsClean r) :
    (⟨ps, []⟩ : Draft).readTag (.name "block".toList :: .name name :: .tagEnd :: r) =
      .ok (⟨[], [(.block name false, ps)]⟩, r) := by
  have hname : expectName (.name name :: .tagEnd :: r) = .ok (name, .tagEnd :: r) := rfl
  have hscoped : skipWord "scoped" (.tagEnd :: r) = .ok (false, .tagEnd :: r) := rfl
  have hbody : expectBody (.tagEnd :: r) = .ok r := by
    rw [expectBody]
    exact expectEnd_of_isClean hr
  rw [readTag_outer (by decide +kernel) (isClean_cons (by simp) _), readOpening, if_pos rfl, hname,
    ok_bind]
  dsimp only
  rw [hscoped, ok_bind]
  dsimp only
  rw [hbody]
  rfl

theorem readTag_endblock (name : Text) (body : List Piece) (hr : IsClean r) :
    (⟨body, [(.block name false, ps)]⟩ : Draft).readTag (.name "endblock".toList :: .tagEnd :: r) =
      .ok (⟨.block name false body.reverse :: ps, []⟩, r) := by
  unfold readTag
  dsimp only
  have hcloses : (Opening.block name false).closings.contains "endblock".toList = true := by
    change ["endblock".toList].contains "endblock".toList = true
    decide
  rw [if_pos hcloses, advance_of_isClean (isClean_cons (by simp) _), ok_bind, readClosing]
  dsimp only
  have hhead : ¬(Token.tagEnd :: r).head? = some (.name name) := by simp
  rw [if_neg hhead, pure_eq_ok, ok_bind, expectEnd_of_isClean hr]
  rfl

end Draft

namespace Reads
variable {ps pieces : List Piece} {around : List (Opening × List Piece)} {r : List Token}

theorem done (ps : List Piece) : Reads ⟨ps, []⟩ [] ps.reverse where
  isClean f := by simp
  read fuel _ := by
    rw [Draft.read]
    rfl

theorem texts (ts : List Text) (h : Reads ⟨(ts.map .text).reverse ++ ps, around⟩ r pieces) :
    Reads ⟨ps, around⟩ (ts.map .data ++ r) pieces := by
  induction ts generalizing ps with
  | nil => exact h
  | cons t ts ih =>
    have hrest : Reads ⟨.text t :: ps, around⟩ (ts.map .data ++ r) pieces := by
      apply ih
      rwa [List.map_cons, List.reverse_cons, List.append_assoc] at h
    refine ⟨isClean_cons (by simp) _, fun fuel hfuel => ?_⟩
    rw [List.map_cons, List.cons_append, List.length_cons] at hfuel
    obtain ⟨fuel, rfl⟩ : ∃ k, fuel = k + 1 := ⟨fuel - 1, by omega⟩
    rw [List.map_cons, List.cons_append, Draft.read, advance_of_isClean hrest.isClean]
    exact hrest.read fuel (by omega)

/-- A tag is read with its opening brace. -/
theorem tag {d d' : Draft} {t : Token} {ts : List Token} (ht : ∀ f, t ≠ .bad f)
    (hread : d.readTag (t :: ts) = .ok (d', r)) (hlength : r.length ≤ ts.length)
    (h : Reads d' r pieces) : Reads d (.tagStart :: t :: ts) pieces := by
  refine ⟨isClean_cons (by simp) _, fun fuel hfuel => ?_⟩
  rw [List.length_cons, List.length_cons] at hfuel
  obtain ⟨fuel, rfl⟩ : ∃ k, fuel = k + 1 := ⟨fuel - 1, by omega⟩
  rw [Draft.read, advance_of_isClean (isClean_cons ht ts), ok_bind, hread, ok_bind]
  exact h.read fuel (by omega)

end Reads

theorem repeated?_eq_none {names : List Text} (seen : List Text) (hnames : names.Nodup)
    (hseen : ∀ n ∈ names, n ∉ seen) : repeated? seen names = none := by
  induction names generalizing seen with
  | nil => rfl
  | cons n names ih =>
    obtain ⟨hn, hnames⟩ := List.nodup_cons.1 hnames
    have hnew : ¬seen.contains n = true := by simpa using hseen n (by simp)
    rw [repeated?, if_neg hnew]
    refine ih (n :: seen) hnames fun m hm => ?_
    rw [List.mem_cons, not_or]
    refine ⟨?_, hseen m (by simp [hm])⟩
    rintro rfl
    exact hn hm

theorem anyMisplaced_map_text (texts : List Text) : Piece.anyMisplaced (texts.map .text) = none := by
  induction texts with
  | nil => simp [Piece.anyMisplaced]
  | cons t texts ih => simp [Piece.anyMisplaced, Piece.misplaced, ih]

theorem misplacedTop_parts (extended : Bool) (parts : List OverridePart) :
    Piece.misplacedTop true extended (parts.map OverridePart.piece) = none := by
  induction parts with
  | nil => simp [Piece.misplacedTop]
  | cons part parts ih =>
    cases part with
    | text t => simp [OverridePart.piece, Piece.misplacedTop, Piece.misplaced, ih]
    | block name seesLoops texts =>
      simp [OverridePart.piece, Piece.misplacedTop, Piece.misplaced, ih]

/-- An overriding template is accepted if no two of its blocks have one name. -/
theorem ofPieces_override {o : Override}
    (hnames : ((o.parts.filterMap OverridePart.block?).map fun b => b.1).Nodup) :
    ofPieces o.template.pieces = .ok o.template := by
  have hblocks : Piece.allBlocks o.template.pieces = o.parts.filterMap OverridePart.block? :=
    o.blocks_template
  have htop : Piece.misplacedTop true false o.template.pieces = none := by
    have hlead : ∀ lead : List Text, Piece.misplacedTop true false
        (lead.map .text ++ .extend (.constant (.text o.base)) :: o.parts.map OverridePart.piece) =
          none := by
      intro lead
      induction lead with
      | nil => simp [Piece.misplacedTop, misplacedTop_parts]
      | cons t lead ih => simpa [Piece.misplacedTop, Piece.misplaced] using ih
    exact hlead o.lead
  have hinner : ((o.parts.filterMap OverridePart.block?).findSome? fun b =>
      Piece.anyMisplaced b.2) = none := by
    rw [List.findSome?_eq_none_iff]
    intro b hb
    obtain ⟨part, -, hpart⟩ := List.mem_filterMap.1 hb
    cases part with
    | text t => simp [OverridePart.block?] at hpart
    | block name seesLoops texts =>
      obtain rfl : (name, texts.map Piece.text) = b := by simpa [OverridePart.block?] using hpart
      exact anyMisplaced_map_text texts
  rw [ofPieces, hblocks, repeated?_eq_none [] hnames (by simp)]
  simp only [htop, hinner, Option.or_none]

def tag (content : Text) : Text := '\x7b' :: '%' :: ' ' :: (content ++ [' ', '%', '\x7d'])

theorem tag_append (content rest : Text) :
    tag content ++ rest = '\x7b' :: '%' :: ' ' :: (content ++ ' ' :: '%' :: '\x7d' :: rest) := by
  simp [tag]

/-- A block as it is written, with its text and the text behind it. -/
structure WrittenBlock where
  block : StandardBlock
  body : Text
  after : Text

namespace WrittenBlock

/-- The tags of a block with its text between them, and the text behind. -/
def text (w : WrittenBlock) : Text :=
  tag ("block".toList ++ ' ' :: w.block.name) ++ w.body ++ tag "endblock".toList ++ w.after

def parts (w : WrittenBlock) : List OverridePart :=
  .block w.block.name false (textsOf w.body) :: (textsOf w.after).map .text

def tokens (w : WrittenBlock) : List Token :=
  .tagStart :: .name "block".toList :: .name w.block.name :: .tagEnd ::
    ((textsOf w.body).map .data ++ .tagStart :: .name "endblock".toList :: .tagEnd ::
      (textsOf w.after).map .data)

def IsLiteral (w : WrittenBlock) : Prop := Template.IsLiteral w.body ∧ Template.IsLiteral w.after

end WrittenBlock

/-- A template as it is written: some text, the extension of the standard template, and blocks with
text in front of them and behind. -/
def source (lead gap : Text) (blocks : List WrittenBlock) : Text :=
  lead ++ tag ("extends".toList ++ ' ' :: '\x27' :: (standardName ++ ['\x27'])) ++ gap
    ++ blocks.flatMap WrittenBlock.text

def written (lead gap : Text) (blocks : List WrittenBlock) : Override where
  lead := textsOf lead
  base := standardName
  parts := (textsOf gap).map .text ++ blocks.flatMap WrittenBlock.parts

theorem isTagWord_name (b : StandardBlock) : isTagWord b.name = true := by
  cases b <;> decide +kernel

theorem cuts_blocks {blocks : List WrittenBlock} (hblocks : ∀ w ∈ blocks, w.IsLiteral) {t : Text}
    (ht : IsLiteral t) :
    Cuts .literal (t ++ blocks.flatMap WrittenBlock.text)
      ((textsOf t).map .data ++ blocks.flatMap WrittenBlock.tokens) := by
  induction blocks generalizing t with
  | nil => simpa using Cuts.literal_end ht
  | cons w blocks ih =>
    obtain ⟨hbody, hafter⟩ := hblocks w (by simp)
    have hrest := ih (fun v hv => hblocks v (by simp [hv])) hafter
    have hend := Cuts.literal_tag_word hbody (w := "endblock".toList) (by decide +kernel) (by decide)
      (Cuts.tag_end_blank hrest)
    have hblock := Cuts.literal_tag_word ht (w := "block".toList) (by decide +kernel) (by decide)
      (Cuts.blank (Cuts.word (isTagWord_name w.block) (Cuts.tag_end_blank hend)))
    simp only [List.flatMap_cons, WrittenBlock.text, WrittenBlock.tokens, tag_append,
      List.append_assoc, List.cons_append]
    exact hblock

theorem reads_blocks (blocks : List WrittenBlock) (ps : List Piece) :
    Reads ⟨ps, []⟩ (blocks.flatMap WrittenBlock.tokens)
      (ps.reverse ++ (blocks.flatMap WrittenBlock.parts).map OverridePart.piece) := by
  induction blocks generalizing ps with
  | nil => simpa using Reads.done ps
  | cons w blocks ih =>
    have hafter : Reads ⟨.block w.block.name false ((textsOf w.body).map .text) :: ps, []⟩
        ((textsOf w.after).map .data ++ blocks.flatMap WrittenBlock.tokens)
        (ps.reverse ++ ((w :: blocks).flatMap WrittenBlock.parts).map OverridePart.piece) := by
      apply Reads.texts
      have hblocks := ih (((textsOf w.after).map .text).reverse
        ++ .block w.block.name false ((textsOf w.body).map .text) :: ps)
      simpa [WrittenBlock.parts, OverridePart.piece, Function.comp_def] using hblocks
    have hbody : Reads ⟨[], [(.block w.block.name false, ps)]⟩
        ((textsOf w.body).map .data ++ .tagStart :: .name "endblock".toList :: .tagEnd ::
          ((textsOf w.after).map .data ++ blocks.flatMap WrittenBlock.tokens))
        (ps.reverse ++ ((w :: blocks).flatMap WrittenBlock.parts).map OverridePart.piece) := by
      apply Reads.texts
      refine Reads.tag (by simp) (Draft.readTag_endblock w.block.name _ hafter.isClean) (by simp) ?_
      rwa [List.append_nil, List.reverse_reverse]
    have hblock := Reads.tag (by simp) (Draft.readTag_block w.block.name hbody.isClean)
      (by rw [List.length_cons, List.length_cons]; omega) hbody
    simpa only [List.flatMap_cons, WrittenBlock.tokens, List.cons_append, List.append_assoc]
      using hblock

section
variable {lead gap : Text} {blocks : List WrittenBlock}

def sourceTokens (lead gap : Text) (blocks : List WrittenBlock) : List Token :=
  (textsOf lead).map .data ++ .tagStart :: .name "extends".toList :: .string standardName ::
    .tagEnd :: ((textsOf gap).map .data ++ blocks.flatMap WrittenBlock.tokens)

theorem tokens_source (hlead : IsLiteral lead) (hgap : IsLiteral gap)
    (hblocks : ∀ w ∈ blocks, w.IsLiteral) :
    tokens (source lead gap blocks) = sourceTokens lead gap blocks := by
  have hname : stringToken standardName = .string standardName := by decide +kernel
  have hextends := Cuts.literal_tag_word hlead (w := "extends".toList) (by decide +kernel) (by decide)
    (Cuts.blank (Cuts.quoted hname (by decide +kernel) (by decide +kernel)
      (Cuts.tag_end_blank (cuts_blocks hblocks hgap))))
  apply tokens_eq_of_cuts
  simpa only [source, sourceTokens, tag_append, List.append_assoc, List.cons_append,
    List.nil_append] using hextends

theorem reads_sourceTokens (lead gap : Text) (blocks : List WrittenBlock) :
    Reads ⟨[], []⟩ (sourceTokens lead gap blocks) (written lead gap blocks).template.pieces := by
  have hgap : Reads
      ⟨.extend (.constant (.text standardName)) :: ((textsOf lead).map .text).reverse, []⟩
      ((textsOf gap).map .data ++ blocks.flatMap WrittenBlock.tokens)
      (written lead gap blocks).template.pieces := by
    apply Reads.texts
    have hblocks := reads_blocks blocks (((textsOf gap).map .text).reverse
      ++ .extend (.constant (.text standardName)) :: ((textsOf lead).map .text).reverse)
    simpa [written, Override.template, OverridePart.piece, Function.comp_def] using hblocks
  apply Reads.texts
  rw [List.append_nil]
  refine Reads.tag (by simp) (Draft.readTag_extends standardName hgap.isClean) ?_ hgap
  rw [List.length_cons, List.length_cons]
  omega

theorem return_notMem_source (hlead : IsLiteral lead) (hgap : IsLiteral gap)
    (hblocks : ∀ w ∈ blocks, w.IsLiteral) : '\r' ∉ source lead gap blocks := by
  have htag : ∀ content, '\r' ∉ content → '\r' ∉ tag content := by
    intro content h
    simpa [tag] using h
  have hname : ∀ b : StandardBlock, '\r' ∉ tag ("block".toList ++ ' ' :: b.name) := by
    intro b
    apply htag
    cases b <;> decide
  have hextends : '\r' ∉ tag ("extends".toList ++ ' ' :: '\x27' :: (standardName ++ ['\x27'])) :=
    htag _ (by decide)
  have hend : '\r' ∉ tag "endblock".toList := htag _ (by decide)
  have htext : '\r' ∉ blocks.flatMap WrittenBlock.text := by
    intro hmem
    obtain ⟨w, hw, hmem⟩ := List.mem_flatMap.1 hmem
    obtain ⟨hbody, hafter⟩ := hblocks w hw
    simp only [WrittenBlock.text, List.mem_append] at hmem
    rcases hmem with ((hmem | hmem) | hmem) | hmem
    · exact hname w.block hmem
    · exact hbody.noReturn hmem
    · exact hend hmem
    · exact hafter.noReturn hmem
  intro hmem
  simp only [source, List.mem_append] at hmem
  rcases hmem with ((hmem | hmem) | hmem) | hmem
  · exact hlead.noReturn hmem
  · exact hextends hmem
  · exact hgap.noReturn hmem
  · exact htext hmem

theorem filterMap_block?_written (lead gap : Text) (blocks : List WrittenBlock) :
    (written lead gap blocks).parts.filterMap OverridePart.block? =
      blocks.map fun w => (w.block.name, (textsOf w.body).map .text) := by
  have htexts : ∀ ts : List Text, (ts.map OverridePart.text).filterMap OverridePart.block? = [] := by
    intro ts
    rw [List.filterMap_map]
    exact List.filterMap_eq_nil_iff.2 fun t _ => rfl
  have hblocks : (blocks.flatMap WrittenBlock.parts).filterMap OverridePart.block? =
      blocks.map fun w => (w.block.name, (textsOf w.body).map .text) := by
    induction blocks with
    | nil => rfl
    | cons w blocks ih =>
      rw [List.flatMap_cons, List.filterMap_append, ih, WrittenBlock.parts, List.filterMap_cons,
        htexts, List.map_cons]
      rfl
  rw [written, List.filterMap_append, htexts, hblocks, List.nil_append]

/-- A written template is read as what it is written for. -/
theorem parse_source (hlead : IsLiteral lead) (hgap : IsLiteral gap)
    (hblocks : ∀ w ∈ blocks, w.IsLiteral) (hnodup : (blocks.map WrittenBlock.block).Nodup) :
    parse (source lead gap blocks) = .ok (written lead gap blocks).template := by
  have hnames : (((written lead gap blocks).parts.filterMap OverridePart.block?).map
      fun b => b.1).Nodup := by
    have hdistinct : ((blocks.map WrittenBlock.block).map StandardBlock.name).Nodup :=
      List.Pairwise.map _ (fun a b hab h => hab (StandardBlock.name_injective h)) hnodup
    rw [List.map_map] at hdistinct
    rw [filterMap_block?_written, List.map_map]
    exact hdistinct
  unfold parse
  rw [normalizeLineFeeds_eq_self (return_notMem_source hlead hgap hblocks),
    tokens_source hlead hgap hblocks]
  dsimp only
  rw [(reads_sourceTokens lead gap blocks).read _ (Nat.le_refl _), ok_bind]
  exact ofPieces_override hnames

theorem flatten_textsOf (t : Text) : (textsOf t).flatten = t := by
  unfold textsOf
  split <;> simp_all

/-- A written template replaces a block with the text that is written for it. -/
theorem replacement_written (lead gap : Text) (blocks : List WrittenBlock) (b : StandardBlock) :
    (written lead gap blocks).replacement b.name =
      (blocks.find? fun w => w.block = b).map WrittenBlock.body := by
  have htexts : ∀ ts : List Text,
      (ts.map OverridePart.text).findSome? (OverridePart.texts? b.name) = none := by
    intro ts
    rw [List.findSome?_map]
    exact List.findSome?_eq_none_iff.2 fun t _ => rfl
  have hblocks : ((blocks.flatMap WrittenBlock.parts).findSome? (OverridePart.texts? b.name)).map
      List.flatten = (blocks.find? fun w => w.block = b).map WrittenBlock.body := by
    induction blocks with
    | nil => rfl
    | cons w blocks ih =>
      rw [List.flatMap_cons, List.findSome?_append, WrittenBlock.parts, List.findSome?_cons, htexts,
        List.find?_cons, OverridePart.texts?]
      by_cases hw : w.block = b
      · simp [hw, flatten_textsOf]
      · have hname : w.block.name ≠ b.name := fun h => hw (StandardBlock.name_injective h)
        simpa [hw, hname] using ih
  rw [Override.replacement, written, List.findSome?_append, htexts, Option.none_or, hblocks]

end

end ClassDiagram.Template
