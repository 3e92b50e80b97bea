import ScriptScan.Proofs.Func.Content
import ScriptScan.Proofs.Outline.Step

/-!
# Outlines without places

The content of an outline is all that it holds except for places. The lines that are still to come
stand behind all that an outline holds (`Outline.Follows`), and every step keeps it so; this is what
makes the order of a body the order in which its lines come.
-/

namespace ScriptScan

/-! ## Contents -/

/-- What an outline holds, without places. -/
structure OutlineContent where
  path : Path
  main : FuncContent
  open? : Option FuncContent
  closed : List (Text × FuncContent)
  startup : List Text
  exit : List Text
  includeOnce : Bool
deriving DecidableEq, Repr

namespace OutlineContent

def current (o : OutlineContent) : FuncContent :=
  o.open?.getD o.main

def setCurrent (o : OutlineContent) (f : FuncContent) : OutlineContent :=
  match o.open? with
  | some _ => { o with open? := some f }
  | none => { o with main := f }

end OutlineContent

namespace Outline

variable {ctx : ScanContext} {o o' : Outline} {l l' : LogicalLine} {ls ls' : List LogicalLine}

def content (o : Outline) : OutlineContent where
  path := o.path
  main := o.main.content
  open? := o.open?.map (·.content)
  closed := o.closed.map fun (key, f) => (key, f.content)
  startup := o.startup.map (·.func)
  exit := o.exit.map (·.func)
  includeOnce := o.includeOnce

theorem content_current (o : Outline) : o.current.content = o.content.current := by
  unfold current OutlineContent.current content
  cases o.open? <;> rfl

theorem content_setCurrent (o : Outline) (f : FuncDecl) :
    (o.setCurrent f).content = o.content.setCurrent f.content := by
  unfold setCurrent OutlineContent.setCurrent
  cases h : o.open? <;> simp [content, h]

theorem content_begun (o : Outline) (hd : FuncHeader) (s : Span) (params : List Param) :
    content { o with open? := some (.ofHeader hd o.path s params) } =
      { o.content with open? := some ⟨hd.name, o.content.path, params, hd.isVolatile, [], []⟩ } :=
  rfl

theorem content_ended (o : Outline) (f : FuncDecl) :
    content { o with open? := none, closed := o.closed ++ [(f.name.key, f)] } =
      { o.content with
        open? := none
        closed := o.content.closed ++ [(f.content.name.key, f.content)] } := by
  simp [content, FuncDecl.content]

theorem content_startup (o : Outline) (hook : Hook) :
    content { o with startup := o.startup ++ [hook] } =
      { o.content with startup := o.content.startup ++ [hook.func] } := by
  simp [content]

theorem content_exit (o : Outline) (hook : Hook) :
    content { o with exit := o.exit ++ [hook] } =
      { o.content with exit := o.content.exit ++ [hook.func] } := by
  simp [content]

/-! ## Lines to come -/

/-- Whether some lines, in the order of their spans, stand behind all that an outline holds. -/
structure Follows (ls : List LogicalLine) (o : Outline) : Prop where
  ordered : ls.Pairwise fun a b => LineTable.ComesAt a.span b
  main : ∀ l ∈ ls, o.main.Precedes l
  opened : ∀ f, o.open? = some f → ∀ l ∈ ls, f.Precedes l

namespace Follows

theorem current (h : o.Follows (l :: ls)) : o.current.Precedes l := by
  cases hopen : o.open? with
  | none =>
    rw [current_of_main hopen]
    exact h.main l (List.mem_cons_self ..)
  | some f =>
    rw [current_of_open hopen]
    exact h.opened f hopen l (List.mem_cons_self ..)

theorem tail (h : o.Follows (l :: ls)) : o.Follows ls where
  ordered := (List.pairwise_cons.1 h.ordered).2
  main l' hl' := h.main l' (List.mem_cons_of_mem l hl')
  opened f hf l' hl' := h.opened f hf l' (List.mem_cons_of_mem l hl')

theorem setCurrent {g : FuncDecl} (h : o.Follows ls) (hg : ∀ l ∈ ls, g.Precedes l) :
    (o.setCurrent g).Follows ls := by
  cases hopen : o.open? with
  | none =>
    rw [setCurrent_of_main hopen]
    exact ⟨h.ordered, hg, h.opened⟩
  | some f =>
    rw [setCurrent_of_open hopen]
    refine ⟨h.ordered, h.main, ?_⟩
    intro f' hf'
    cases hf'
    exact hg

end Follows

theorem Step.follows (hs : Step ctx o l o') (h : o.Follows (l :: ls)) : o'.Follows ls := by
  have hbehind := (List.pairwise_cons.1 h.ordered).1
  cases hs with
  | body hc => exact h.tail.setCurrent fun l' hl' => h.current.addLine (hbehind l' hl')
  | label name hc hstrict hnew =>
    exact h.tail.setCurrent fun l' hl' => h.current.addLabel (hbehind l' hl')
  | includeOnce hc => exact ⟨h.tail.ordered, h.tail.main, h.tail.opened⟩
  | startupHook func hc => exact ⟨h.tail.ordered, h.tail.main, h.tail.opened⟩
  | exitHook func hc => exact ⟨h.tail.ordered, h.tail.main, h.tail.opened⟩
  | pragma d hc hd => exact h.tail
  | beginFunc hd params hc hopen hname hfree hparams hcheck =>
    -- a function that begins has no lines yet
    refine ⟨h.tail.ordered, h.tail.main, ?_⟩
    intro f hf l' _
    cases hf
    exact FuncDecl.precedes_of_empty rfl l'
  | endFunc f hc hopen =>
    refine ⟨h.tail.ordered, h.tail.main, ?_⟩
    intro f' hf'
    cases hf'

theorem follows_empty (path : Path) (h : ls.Pairwise fun a b => LineTable.ComesAt a.span b) :
    (empty path).Follows ls := by
  refine ⟨h, fun l _ => FuncDecl.precedes_of_empty rfl l, ?_⟩
  intro f hf
  cases hf

end Outline

end ScriptScan
