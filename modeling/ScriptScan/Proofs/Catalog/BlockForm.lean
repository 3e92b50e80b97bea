import ScriptScan.Proofs.Catalog.Bodies
import ScriptScan.Proofs.Outline.Places
import ScriptScan.Proofs.Source.Exchange

/-!
# One-line forms and blocks

A statement that is governed by an if on its own line means the same as in a block of three lines:
in every source, the texts that are read are the same, and so are the scripts that they declare, up
to places (`Catalog.if_blockForm`).

The same holds of the body of a function behind an arrow (`Catalog.func_blockForm`), as long as no
closing parenthesis in the declaration has an arrow behind it, and the word volatile has white space
behind it. The reader of one-line functions does not follow string literals, and is stricter about
white space than the rule for functions (`Catalog.func_readers_part`).
-/

namespace ScriptScan

namespace Catalog

variable {c : Catalog} {setup : Setup} {key : Path} {m : SourceMode} {t u : Text}
  {before after : List Text} {out : List LogicalLine} {line stmt : Text}

/-- Whether two texts declare the same under a path, up to places: scripts of one content, if both
are accepted; and if the handlers do not look at places, both are accepted, or both are refused with
one key. -/
structure ReadAlike (c : Catalog) (setup : Setup) (key : Path) (t u : Text) : Prop where
  content : ∀ s s', c.read setup key t = .ok s → c.read setup key u = .ok s' →
    s.content = s'.content
  answer : (∀ h ∈ setup.handlers, h.PlaceBlind) →
    answer Script.content (c.read setup key t) = answer Script.content (c.read setup key u)

/-- Texts that are read as the same texts declare the same. -/
theorem readAlike_of_readTexts
    (h : LogicalSource.readTexts ⟨key.text, setup.options.strict⟩ t =
      LogicalSource.readTexts ⟨key.text, setup.options.strict⟩ u) : c.ReadAlike setup key t u := by
  unfold LogicalSource.readTexts at h
  cases hread : LogicalSource.read ⟨key.text, setup.options.strict⟩ t with
  | error f =>
    cases hread' : LogicalSource.read ⟨key.text, setup.options.strict⟩ u with
    | error f' =>
      rw [hread, hread'] at h
      refine ⟨?_, ?_⟩
      · intro s s' hs
        simp [Catalog.read, hread] at hs
      · intro _
        have hkey : f.key = f'.key := congrArg Cause.key (Except.error.inj h)
        simp only [Catalog.read, hread, hread']
        exact congrArg Except.error hkey
    | ok source' =>
      rw [hread, hread'] at h
      cases h
  | ok source =>
    cases hread' : LogicalSource.read ⟨key.text, setup.options.strict⟩ u with
    | error f' =>
      rw [hread, hread'] at h
      cases h
    | ok source' =>
      rw [hread, hread'] at h
      have htexts := Except.ok.inj h
      have hordered := LogicalSource.comesAt_of_read hread
      have hordered' := LogicalSource.comesAt_of_read hread'
      refine ⟨?_, ?_⟩
      · intro s s' hs hs'
        simp only [Catalog.read, hread, hread'] at hs hs'
        exact Script.content_ofSource hordered hordered' htexts hs hs'
      · intro hblind
        simp only [Catalog.read, hread, hread']
        exact Script.answer_ofSource hblind hordered hordered' htexts

/-- Lines that say the same may stand for one another. -/
theorem readAlike_of_says {ls ls' : List Text} {r : Except Cause (List Text)}
    (hbefore : m.Reads before out) (h : m.Says ls r) (h' : m.Says ls' r)
    (ht : t.lines = before ++ (ls ++ after)) (hu : u.lines = before ++ (ls' ++ after)) :
    LogicalSource.readTexts m t = LogicalSource.readTexts m u ∧
      ∀ (c : Catalog) (setup : Setup) (key : Path), m = ⟨key.text, setup.options.strict⟩ →
        c.ReadAlike setup key t u := by
  have htexts := LogicalSource.readTexts_congr hbefore h h' ht hu
  refine ⟨htexts, ?_⟩
  rintro c setup key rfl
  exact readAlike_of_readTexts htexts

/-! ## If -/

/-- An if means the same whether its statement stands on the same line or in a block: behind lines
that leave nothing open, and before any lines, either is read as the same texts. -/
theorem if_blockForm {head : IfHead} (hhead : head.WellFormed) (hstmt : stmt.IsStatement)
    (hbefore : m.Reads before out)
    (ht : t.lines = before ++ head.oneLine stmt :: after)
    (hu : u.lines = before ++ head.header :: stmt :: "endif".toList :: after) :
    LogicalSource.readTexts m t = LogicalSource.readTexts m u ∧
      ∀ (c : Catalog) (setup : Setup) (key : Path), m = ⟨key.text, setup.options.strict⟩ →
        c.ReadAlike setup key t u := by
  obtain ⟨r, honeLine, hblock⟩ := SourceMode.says_if (m := m) hhead hstmt
  exact readAlike_of_says hbefore honeLine hblock ht hu

/-- An if with the word then in a literal. -/
def literalThen : IfHead :=
  ⟨"If".toList, "$a = \"then\"".toList, "Then".toList⟩

/-- Some lines between a block comment and another line. -/
def behindComment (lines : Text) : Text :=
  "#cs\nx\n#ce\n".toList ++ lines ++ "\ny".toList

/-- Such an if that governs another one, behind a block comment. -/
theorem if_blockForm_sample :
    literalThen.WellFormed ∧ Text.IsStatement "if $b then f()".toList ∧
      SourceMode.Reads ⟨"http://a/b.au3".toList, true⟩ ["#cs".toList, "x".toList, "#ce".toList] [] ∧
      LogicalSource.readTexts ⟨"http://a/b.au3".toList, true⟩
          (behindComment "If $a = \"then\" Then if $b then f()".toList) =
        LogicalSource.readTexts ⟨"http://a/b.au3".toList, true⟩
          (behindComment "If $a = \"then\" Then\nif $b then f()\nendif".toList) ∧
      (initial []).ReadAlike { options := { strict := true, includeDir := ⟨['/']⟩ } }
        ⟨"http://a/b.au3".toList⟩
        (behindComment "If $a = \"then\" Then if $b then f()".toList)
        (behindComment "If $a = \"then\" Then\nif $b then f()\nendif".toList) := by
  have hhead : literalThen.WellFormed :=
    ⟨by decide, by decide, by decide, by decide, by decide +kernel⟩
  have hstmt : Text.IsStatement "if $b then f()".toList :=
    ⟨by decide, by decide, by decide, by decide, by decide⟩
  have hreads : SourceMode.Reads ⟨"http://a/b.au3".toList, true⟩
      ["#cs".toList, "x".toList, "#ce".toList] [] := by
    decide +kernel
  have honeLine : (behindComment "If $a = \"then\" Then if $b then f()".toList).lines =
      ["#cs".toList, "x".toList, "#ce".toList] ++
        literalThen.oneLine "if $b then f()".toList :: ["y".toList] := by
    decide
  have hblock : (behindComment "If $a = \"then\" Then\nif $b then f()\nendif".toList).lines =
      ["#cs".toList, "x".toList, "#ce".toList] ++
        literalThen.header :: "if $b then f()".toList :: "endif".toList :: ["y".toList] := by
    decide
  obtain ⟨htexts, hscripts⟩ := if_blockForm hhead hstmt hreads honeLine hblock
  exact ⟨hhead, hstmt, hreads, htexts, hscripts _ _ _ rfl⟩

/-! ## Functions -/

/-- A function means the same whether its body stands behind an arrow or in a block, and its
declaration alone stays as it is in both modes. -/
theorem func_blockForm (hline : line.IsFuncLine) (hspaced : line.IsSpaced)
    (hstmt : stmt.IsStatement) (hmode : m.strict = false) (hbefore : m.Reads before out)
    (ht : t.lines = before ++ line.withBody stmt :: after)
    (hu : u.lines = before ++ line :: stmt :: "endfunc".toList :: after) :
    LogicalSource.readTexts m t = LogicalSource.readTexts m u ∧
      (∀ (c : Catalog) (setup : Setup) (key : Path), m = ⟨key.text, setup.options.strict⟩ →
        c.ReadAlike setup key t u) ∧
      ∀ m' : SourceMode, m'.Says [line] (.ok [line]) := by
  obtain ⟨r, honeLine, hblock⟩ := SourceMode.says_func hline hspaced hstmt hmode
  obtain ⟨htexts, hscripts⟩ := readAlike_of_says hbefore honeLine hblock ht hu
  exact ⟨htexts, hscripts, fun m' => SourceMode.says_funcLine hline⟩

/-- A volatile function with an arrow in a literal, whose body is an if. -/
theorem func_blockForm_sample :
    Text.IsFuncLine "Volatile Func f($a = \"->\")".toList ∧
      Text.IsSpaced "Volatile Func f($a = \"->\")".toList ∧
      Text.IsStatement "if $a then g()".toList ∧
      SourceMode.Reads ⟨"http://a/b.au3".toList, false⟩
        ["#cs".toList, "x".toList, "#ce".toList] [] ∧
      LogicalSource.readTexts ⟨"http://a/b.au3".toList, false⟩
          (behindComment "Volatile Func f($a = \"->\") -> if $a then g()".toList) =
        LogicalSource.readTexts ⟨"http://a/b.au3".toList, false⟩
          (behindComment "Volatile Func f($a = \"->\")\nif $a then g()\nendfunc".toList) ∧
      (initial []).ReadAlike { options := { includeDir := ⟨['/']⟩ } } ⟨"http://a/b.au3".toList⟩
        (behindComment "Volatile Func f($a = \"->\") -> if $a then g()".toList)
        (behindComment "Volatile Func f($a = \"->\")\nif $a then g()\nendfunc".toList) := by
  have hline : Text.IsFuncLine "Volatile Func f($a = \"->\")".toList :=
    ⟨by decide +kernel, by decide, by decide, by decide +kernel⟩
  have hspaced : Text.IsSpaced "Volatile Func f($a = \"->\")".toList := by
    decide
  have hstmt : Text.IsStatement "if $a then g()".toList :=
    ⟨by decide, by decide, by decide, by decide, by decide⟩
  have hreads : SourceMode.Reads ⟨"http://a/b.au3".toList, false⟩
      ["#cs".toList, "x".toList, "#ce".toList] [] := by
    decide +kernel
  have honeLine : (behindComment "Volatile Func f($a = \"->\") -> if $a then g()".toList).lines =
      ["#cs".toList, "x".toList, "#ce".toList] ++
        Text.withBody "Volatile Func f($a = \"->\")".toList "if $a then g()".toList ::
          ["y".toList] := by
    decide
  have hblock :
      (behindComment "Volatile Func f($a = \"->\")\nif $a then g()\nendfunc".toList).lines =
        ["#cs".toList, "x".toList, "#ce".toList] ++
          "Volatile Func f($a = \"->\")".toList :: "if $a then g()".toList ::
            "endfunc".toList :: ["y".toList] := by
    decide
  obtain ⟨htexts, hscripts, -⟩ :=
    func_blockForm hline hspaced hstmt rfl hreads honeLine hblock
  exact ⟨hline, hspaced, hstmt, hreads, htexts, hscripts _ _ _ rfl⟩

/-- Two declarations of which the block form is another one. An arrow behind a closing parenthesis,
in the default of a parameter, cuts a declaration that stands alone, and strict mode refuses it. And
a declaration whose first two words are not set apart is not cut from its body. -/
theorem func_readers_part :
    ((LineRule.func.read? "func f($a = \") -> x\")".toList).isSome = true ∧
        Text.IsStatement "func f($a = \") -> x\")".toList ∧
        expand false "func f($a = \") -> x\")".toList =
          .ok ["func f($a = \")".toList, "x\")".toList, "endfunc".toList] ∧
        expand true "func f($a = \") -> x\")".toList = .error .oneLineFunc) ∧
      (LineRule.func.read? "volatilefunc f()".toList).isSome = true ∧
        Text.IsStatement "volatilefunc f()".toList ∧
        expand false (Text.withBody "volatilefunc f()".toList "x".toList) =
          .ok ["volatilefunc f() -> x".toList] := by
  have hif : (Text.trim "func f($a = \") -> x\")".toList).splitOneLineIf? = none := by
    decide +kernel
  have hcut : (Text.trim "func f($a = \") -> x\")".toList).splitOneLineFunc? =
      some ("func f($a = \")".toList, "x\")".toList) := by
    decide +kernel
  refine ⟨⟨by decide +kernel, ⟨by decide, by decide, by decide, by decide, by decide⟩, ?_, ?_⟩,
    by decide +kernel, ⟨by decide, by decide, by decide, by decide, by decide⟩, ?_⟩
  · have hrest : expand false "x\")".toList = .ok ["x\")".toList] :=
      expand_of_plain (by decide) (by decide +kernel) (by decide +kernel)
    rw [expand_of_func hif hcut, hrest]
    rfl
  · rw [expand_of_func hif hcut]
    rfl
  · exact expand_of_plain (by decide) (by decide +kernel) (by decide +kernel)

end Catalog

end ScriptScan
