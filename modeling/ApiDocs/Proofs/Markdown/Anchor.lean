import ApiDocs.Proofs.Markdown.Relevance
import ApiDocs.Proofs.Prose.Label

namespace ApiDocs.Markdown

/-! Anchors: where the references of a page lead.  Every name that a page shows has one, in
front of its heading or its bullet. -/

open Metadata
open Documentation (Index Entry)

def Contains (text part : String) : Prop :=
  ∃ before after, text = before ++ part ++ after

namespace Contains

variable {text middle part : String}

theorem trans (h : Contains text middle) (hpart : Contains middle part) :
    Contains text part := by
  obtain ⟨before, after, rfl⟩ := h
  obtain ⟨inner, outer, rfl⟩ := hpart
  exact ⟨before ++ inner, outer ++ after, by simp only [String.append_assoc]⟩

theorem append_left (h : Contains text part) (front : String) : Contains (front ++ text) part := by
  obtain ⟨before, after, rfl⟩ := h
  exact ⟨front ++ before, after, by simp only [String.append_assoc]⟩

theorem append_right (h : Contains text part) (back : String) : Contains (text ++ back) part := by
  obtain ⟨before, after, rfl⟩ := h
  exact ⟨before, after ++ back, by simp only [String.append_assoc]⟩

theorem of_start (part back : String) : Contains (part ++ back) part :=
  ⟨"", back, by rw [String.empty_append]⟩

theorem join {texts : List String} (h : text ∈ texts) : Contains (String.join texts) text := by
  obtain ⟨before, after, rfl⟩ := List.append_of_mem h
  exact ⟨String.join before, String.join after, by simp [String.append_assoc]⟩

end Contains

theorem trimNewlines_append {front back : String} {last : Char}
    (hlast : front.toList.getLast? = some last) (hne : last ≠ '\n') :
    trimNewlines (front ++ back) = front ++ trimNewlines back := by
  obtain ⟨rest, hrest⟩ := List.getLast?_eq_some_iff.mp hlast
  have hstop : (last == '\n') = false := by simpa using hne
  rw [trimNewlines, trimNewlines, ← String.toList_inj, String.toList_ofList,
    String.toList_append, String.toList_append, String.toList_ofList, hrest,
    List.reverse_append, List.reverse_append, List.dropWhile_append]
  split
  · next hempty =>
      rw [List.isEmpty_iff] at hempty
      simp [hempty, hstop]
  · simp

theorem Contains.trimNewlines {text part : String} {last : Char} (h : Contains text part)
    (hlast : part.toList.getLast? = some last) (hne : last ≠ '\n') :
    Contains (trimNewlines text) part := by
  obtain ⟨before, after, rfl⟩ := h
  have hfront : (before ++ part).toList.getLast? = some last := by
    rw [String.toList_append, List.getLast?_append, hlast]
    rfl
  exact ⟨before, Markdown.trimNewlines after, trimNewlines_append hfront hne⟩

/-- The names that references on a page can lead to. -/
def IsTarget (config : Config) (index : Index) (types : List ExportedType) (name : String) :
    Prop :=
  ∃ type ∈ types, isRendered config index type = true ∧ type.Shows name

def anchor (name : String) : String :=
  "<a id=\"" ++ name ++ "\"></a>"

def headingLine (type : ExportedType) : String :=
  "## " ++ type.kind.keyword ++ " " ++ type.docName ++ "\n"

def MemberItem.line (item : MemberItem) : String :=
  String.join ((present item.valueType?).map fun type => "*" ++ type ++ "* ") ++
    "**" ++ item.name ++ "**" ++ (item.signature?.map fun list => " *" ++ list ++ "*").getD ""

/-- A bullet, with what documentation says below its first line. -/
def bullet (line body : String) : String :=
  "* " ++ line ++ (if body.isEmpty then "\n" else "  \n" ++ body ++ "\n") ++ "\n"

/-- What documentation says about a name, below a member with these parameters. -/
def bodyUnder (config : Config) (index : Index) (name : String) (parameters : List Parameter) :
    String :=
  match index.get? name with
  | some entry => MemberItem.bodyOf config entry parameters
  | none => ""

def shownTitles (type : ExportedType) : List String :=
  if type.kind.isEnum then [] else Category.usedTitles type

def memberText (config : Config) (index : Index) (type : ExportedType) (member : Member) :
    String :=
  anchor (type.memberId member) ++ "\n\n" ++
    bullet (MemberItem.build config index type member).line
      (bodyUnder config index (type.memberId member) member.parameters)

def categoryText (config : Config) (index : Index) (type : ExportedType) (title : String) :
    String :=
  "**" ++ title ++ "**\n\n" ++
    String.join ((Category.membersUnder type title).map (memberText config index type))

/-- A text that begins with the anchor and the heading of a type, and ends with its members
by category. -/
def IsAnchored (config : Config) (index : Index) (type : ExportedType) (text : String) : Prop :=
  ∃ intro, text = anchor type.docName ++ "\n" ++ headingLine type ++ intro ++
    String.join ((shownTitles type).map (categoryText config index type))

theorem anchorLine_eq (name : String) : anchorLine name = anchor name ++ "\n" := by
  simp [anchorLine, anchor, String.append_assoc]

theorem text_build (config : Config) (index : Index) (type : ExportedType) (member : Member) :
    (MemberItem.build config index type member).text = memberText config index type member := by
  have hbody : (MemberItem.build config index type member).body =
      bodyUnder config index (type.memberId member) member.parameters := rfl
  have hbreak : "\n\n" = "\n" ++ "\n" := rfl
  have hstar : "\n* " = "\n" ++ "* " := rfl
  rw [memberText, ← hbody, MemberItem.text, anchorLine_eq, bullet, MemberItem.line, hbreak,
    hstar]
  simp only [String.append_assoc]
  rfl

theorem text_under (config : Config) (index : Index) (type : ExportedType) (title : String) :
    (Category.under config index type title).text = categoryText config index type title := by
  rw [Category.text, Category.under, categoryText, List.map_map]
  congr 2
  apply List.map_congr_left
  intro member _
  exact text_build config index type member

theorem ofType_eq_shownTitles (config : Config) (index : Index) (type : ExportedType) :
    Category.ofType config index type =
      (shownTitles type).map (Category.under config index type) := by
  rw [shownTitles]
  cases hkind : type.kind.isEnum with
  | true => rw [Category.ofType, if_pos hkind, if_pos rfl, List.map_nil]
  | false => rw [Category.ofType_eq hkind, if_neg Bool.false_ne_true]

theorem isAnchored_text_build (config : Config) (index : Index) (type : ExportedType)
    (entry : Entry) :
    IsAnchored config index type (Section.build config index type entry).text := by
  have hcategories : (Section.build config index type entry).categories.map Category.text =
      (shownTitles type).map (categoryText config index type) := by
    rw [Section.build, ofType_eq_shownTitles, List.map_map]
    apply List.map_congr_left
    intro title _
    exact text_under config index type title
  refine ⟨String.join ((present (Section.baseOf type)).map fun base =>
      "Extends \x60" ++ base ++ "\x60\n") ++ "\n" ++
    String.join ((Section.blocksOf entry).map (· ++ "\n\n")) ++
    Section.enumText (if type.kind.isEnum then type.enumValues else []), ?_⟩
  rw [Section.text, hcategories, anchorLine_eq, headingLine]
  simp only [Section.build, String.append_assoc]

variable {config : Config} {index : Index} {types : List ExportedType} {type : ExportedType}

theorem exists_isAnchored (h : isRendered config index type = true) :
    ∃ text, renderType? config index type = some text ∧ IsAnchored config index type text := by
  rw [← entryFor?_isSome, Option.isSome_iff_exists] at h
  obtain ⟨entry, hentry⟩ := h
  refine ⟨_, by rw [renderType?, hentry, Option.map_some], ?_⟩
  exact isAnchored_text_build config index type entry

theorem IsAnchored.opens {text : String} (h : IsAnchored config index type text) :
    ∃ rest, text = anchor type.docName ++ "\n## " ++ type.kind.keyword ++ " " ++ rest := by
  obtain ⟨intro, rfl⟩ := h
  have hbreak : "\n## " = "\n" ++ "## " := rfl
  exact ⟨_, by simp only [headingLine, hbreak, String.append_assoc]; rfl⟩

theorem IsAnchored.bullet {text title : String} {member : Member}
    (h : IsAnchored config index type text) (htitle : title ∈ shownTitles type)
    (hmem : member ∈ Category.membersUnder type title) :
    Contains text (anchor (type.memberId member) ++ "\n\n* " ++
      (MemberItem.build config index type member).line) := by
  obtain ⟨intro, rfl⟩ := h
  apply Contains.append_left
  apply (Contains.join (List.mem_map_of_mem htitle)).trans
  rw [categoryText]
  apply Contains.append_left
  apply (Contains.join (List.mem_map_of_mem hmem)).trans
  have hbreak : "\n\n* " = "\n\n" ++ "* " := rfl
  exact ⟨"", _, by simp only [memberText, Markdown.bullet, hbreak, String.append_assoc]; rfl⟩

theorem contains_render {text part : String} {last : Char} (hmem : type ∈ types)
    (hrendered : isRendered config index type = true)
    (htext : renderType? config index type = some text) (hpart : Contains text part)
    (hlast : part.toList.getLast? = some last) (hne : last ≠ '\n') :
    Contains (render config index types) part := by
  have hplace : type ∈ (order index types).filter (isRendered config index) :=
    List.mem_filter.mpr ⟨(order_perm index types).mem_iff.mpr hmem, hrendered⟩
  rw [render_eq_join]
  apply (Contains.join (List.mem_map_of_mem hplace)).trans
  apply Contains.append_right
  rw [bodyOf, htext]
  exact hpart.trimNewlines hlast hne

theorem getLast?_line (item : MemberItem) : item.line.toList.getLast? = some '*' := by
  rw [MemberItem.line]
  cases item.signature? <;> simp [List.getLast?_append, List.getLast?_cons]

theorem anchor_heading_mem_render (hmem : type ∈ types)
    (hrendered : isRendered config index type = true) :
    Contains (render config index types)
      (anchor type.docName ++ "\n## " ++ type.kind.keyword ++ " ") := by
  obtain ⟨text, htext, hanchored⟩ := exists_isAnchored hrendered
  obtain ⟨rest, hopens⟩ := hanchored.opens
  have hlast : (anchor type.docName ++ "\n## " ++ type.kind.keyword ++ " ").toList.getLast? =
      some ' ' := by
    simp [List.getLast?_append, List.getLast?_cons]
  have hpart : Contains text
      (anchor type.docName ++ "\n## " ++ type.kind.keyword ++ " ") := by
    rw [hopens]
    exact Contains.of_start _ rest
  exact contains_render hmem hrendered htext hpart hlast (by decide)

theorem anchor_bullet_mem_render {title : String} {member : Member} (hmem : type ∈ types)
    (hrendered : isRendered config index type = true) (htitle : title ∈ shownTitles type)
    (hmember : member ∈ Category.membersUnder type title) :
    Contains (render config index types) (anchor (type.memberId member) ++ "\n\n* " ++
      (MemberItem.build config index type member).line) := by
  obtain ⟨text, htext, hanchored⟩ := exists_isAnchored hrendered
  have hlast : (anchor (type.memberId member) ++ "\n\n* " ++
      (MemberItem.build config index type member).line).toList.getLast? = some '*' := by
    rw [String.toList_append, List.getLast?_append, getLast?_line]
    rfl
  exact contains_render hmem hrendered htext (hanchored.bullet htitle hmember) hlast (by decide)

theorem anchor_mem_render {name : String} (h : IsTarget config index types name) :
    Contains (render config index types) (anchor name) := by
  obtain ⟨type, hmem, hrendered, hshown⟩ := h
  cases hshown with
  | name =>
      apply (anchor_heading_mem_render hmem hrendered).trans
      simp only [String.append_assoc]
      exact Contains.of_start _ _
  | @member member hkind hlisted =>
      have htitle : Category.titleOf member ∈ shownTitles type := by
        rw [shownTitles, if_neg (by simp [hkind])]
        exact Category.titleOf_mem_usedTitles hlisted
      have hmember : member ∈ Category.membersUnder type (Category.titleOf member) :=
        List.mem_filter.mpr ⟨hlisted, decide_eq_true rfl⟩
      apply (anchor_bullet_mem_render hmem hrendered htitle hmember).trans
      simp only [String.append_assoc]
      exact Contains.of_start _ _

/-- References to what a page shows, and the anchors that they lead to. -/
structure LinksResolve (config : Config) (index : Index) (types : List ExportedType) : Prop
    where
  link : ∀ (see : Xml.Element) cref descriptor, see.tag = "see" → see.get? "cref" = some cref →
    Descriptor.parse cref = .ok descriptor → IsTarget config index types descriptor.name →
    (∀ language context column, Prose.render language context column see.toNode =
      .ok (" [" ++ Prose.label see.text descriptor.name context ++ "](#" ++
        descriptor.name ++ ") ")) ∧
      Contains (render config index types) (anchor descriptor.name)
  sections : ∃ body : ExportedType → String,
    render config index types =
      String.join (((order index types).filter (isRendered config index)).map fun type =>
        body type ++ "\n\n---\n\n") ∧
      ∀ type, isRendered config index type = true →
        ∃ text, renderType? config index type = some text ∧
          IsAnchored config index type text ∧ IsTrimmed text (body type)
  headings : ∀ type ∈ types, isRendered config index type = true →
    Contains (render config index types)
      (anchor type.docName ++ "\n## " ++ type.kind.keyword ++ " ")
  bullets : ∀ type ∈ types, isRendered config index type = true →
    ∀ title ∈ shownTitles type, ∀ member ∈ Category.membersUnder type title,
      Contains (render config index types) (anchor (type.memberId member) ++ "\n\n* " ++
        (MemberItem.build config index type member).line)

/-- Every reference to a type or a member that a page shows leads to an anchor on this page,
in front of the heading of the type or the bullet of the member. -/
theorem linksResolve (config : Config) (index : Index) (types : List ExportedType) :
    LinksResolve config index types where
  link := by
    intro see cref descriptor htag hcref hparse htarget
    exact ⟨Prose.render_of_cref htag hcref hparse, anchor_mem_render htarget⟩
  sections := by
    refine ⟨bodyOf config index, render_eq_join config index types, ?_⟩
    intro type hrendered
    obtain ⟨text, htext, hanchored⟩ := exists_isAnchored hrendered
    refine ⟨text, htext, hanchored, ?_⟩
    rw [bodyOf, htext]
    exact isTrimmed_trimNewlines text
  headings := fun _ hmem hrendered => anchor_heading_mem_render hmem hrendered
  bullets := fun _ hmem hrendered _ htitle _ hmember =>
    anchor_bullet_mem_render hmem hrendered htitle hmember

/-- A reference to a method of a nested type, whose parameter is passed by reference. -/
theorem linksResolve_of_method :
    let method : Method := ⟨"Run", none, [⟨"x", ⟨"N.A+B&", []⟩, false, .null⟩], false, false⟩
    let type : ExportedType := ⟨"N.A+C", .struct, none, [], [], [method], [], [], []⟩
    let index : Index := Table.empty.insert "N.A.C"
      ⟨.type, "N.A.C", 0, none, none, none, none, Table.empty⟩
    let see : Xml.Element := ⟨"see", [("cref", "M:N.A.C.Run(N.A.B@)")], ⟨1, 0⟩, []⟩
    IsTarget .standard index [type] "N.A.C.Run(N.A.B@)" ∧
      Prose.render "csharp" "N.A.C" 0 see.toNode =
        .ok (" [" ++ "Run" ++ "](#" ++ "N.A.C.Run(N.A.B@)" ++ ") ") ∧
      Contains (render .standard index [type]) (anchor "N.A.C.Run(N.A.B@)") := by
  intro method type index see
  have hmember : type.Shows (type.memberId (.method method)) :=
    .member rfl (by simp [type, Category.listed, ExportedType.IsAccessor, method])
  have hname : type.memberId (.method method) = "N.A.C.Run(N.A.B@)" := by decide
  rw [hname] at hmember
  have htarget : IsTarget .standard index [type] "N.A.C.Run(N.A.B@)" :=
    ⟨type, List.mem_singleton_self type, by decide, hmember⟩
  obtain ⟨hlink, hanchor⟩ := (linksResolve .standard index [type]).link see
    "M:N.A.C.Run(N.A.B@)" ⟨.method, "N.A.C.Run(N.A.B@)"⟩ rfl rfl rfl htarget
  have hlabel : Prose.label see.text "N.A.C.Run(N.A.B@)" "N.A.C" = "Run" := by decide
  have hrender := hlink "csharp" "N.A.C" 0
  rw [hlabel] at hrender
  exact ⟨htarget, hrender, hanchor⟩

end ApiDocs.Markdown
