import StaticSite.Page.Meta
import StaticSite.Proofs.Markup.Tags

/-!
# The tags in the head of a page

A reader of tags finds those that a page is meant to have, in their order and with their values,
whatever the title, the description and the address of the page are.
-/

namespace StaticSite

namespace Page

def metaTag (kind key value : Text) : Markup.Tag := ⟨"meta", [(kind, key), ("content", value)]⟩

def linkTag (url : Text) : Markup.Tag := ⟨"link", [("rel", "canonical"), ("href", url)]⟩

/-- The tags that a page is meant to have: for a page that is kept out of every index the one that
says so, and for every other one its title and its description, if there are any, and its address. -/
def intendedTags (fields : Fields) (url : Text) : List Markup.Tag :=
    if fields.isNoIndex then [metaTag "name" "robots" "noindex"]
  else
    ((fields.get? "title").toList.map (metaTag "property" "og:title")) ++
    (if fields.value "desc" = [] then [] else [metaTag "name" "description" (fields.value "desc")]) ++
    [linkTag url, metaTag "property" "og:url" url]

variable {fields : Fields} {url : Text}

theorem isNamed_metaTag {kind : Text} (word : Markup.IsWord kind) (key value : Text) :
    (metaTag kind key value).IsNamed := by
  have name : Markup.IsWord "meta".toList := by decide
  have content : Markup.IsWord "content".toList := by decide
  refine ⟨name, ?_⟩
  simpa [metaTag] using ⟨word, content⟩

theorem isNamed_linkTag (url : Text) : (linkTag url).IsNamed := by
  have name : Markup.IsWord "link".toList := by decide
  have keys : ∀ key ∈ ["rel".toList, "href".toList], Markup.IsWord key := by decide
  refine ⟨name, ?_⟩
  simpa [linkTag] using keys

theorem isNamed_of_mem_intendedTags : ∀ tag ∈ intendedTags fields url, tag.IsNamed := by
  have named := isNamed_metaTag (by decide : Markup.IsWord "name".toList)
  have property := isNamed_metaTag (by decide : Markup.IsWord "property".toList)
  intro tag member
  unfold intendedTags at member
  split at member
  · obtain rfl := List.mem_singleton.1 member
    exact named _ _
  · simp only [List.mem_append, List.mem_map, List.mem_cons, List.not_mem_nil, or_false] at member
    rcases member with (⟨title, -, rfl⟩ | described) | rfl | rfl
    · exact property _ _
    · split at described
      · cases described
      · obtain rfl := List.mem_singleton.1 described
        exact named _ _
    · exact isNamed_linkTag url
    · exact property _ _

theorem write_metaTag (kind key value : Text) :
    (metaTag kind key value).write = "<meta ".toList ++ kind ++ "=\"".toList ++ Markup.escape key ++
      "\" content=\"".toList ++ Markup.escape value ++ "\">".toList := by
  simp [metaTag, Markup.Tag.write, Markup.Tag.writeField]

theorem write_linkTag (url : Text) :
    (linkTag url).write = "<link rel=\"".toList ++ Markup.escape "canonical".toList ++
      "\" href=\"".toList ++ Markup.escape url ++ "\">".toList := by
  simp [linkTag, Markup.Tag.write, Markup.Tag.writeField]

/-- The tags that are written are those that are meant. -/
theorem metaTagList_eq (fields : Fields) (url : Text) :
    metaTagList fields url = (intendedTags fields url).map Markup.Tag.write := by
  have titled (title : Text) :
      titleTag title = (metaTag "property" "og:title" title).write := by
    rw [write_metaTag]
    rfl
  have described (description : Text) :
      descriptionTag description = (metaTag "name" "description" description).write := by
    rw [write_metaTag]
    rfl
  have hidden : noIndexTag = (metaTag "name" "robots" "noindex").write := rfl
  have addressed (url : Text) : addressTags url =
      [(linkTag url).write, (metaTag "property" "og:url" url).write] := by
    rw [write_linkTag, write_metaTag]
    rfl
  unfold metaTagList intendedTags
  split
  · rw [hidden]
    rfl
  · simp only [List.map_append, addressed]
    congr 2
    · cases fields.get? "title" with
      | none => rfl
      | some title => simp [titled]
    · cases fields.value "desc" with
      | nil => rfl
      | cons first others => simp [described]

/-- Whatever a page states about itself, a reader finds the tags that are meant in the text of its
tags, with every value as it was stated, and nothing else but indents. -/
theorem metaTags_read_as_intended (fields : Fields) (url : Text) :
    Markup.readTags (metaTags fields url) =
      { plain := (intendedTags fields url).flatMap fun _ => "\n  ".toList
        tags := intendedTags fields url
        place := .outside } := by
  have lines : metaTags fields url =
      (intendedTags fields url).flatMap fun tag => "\n  ".toList ++ tag.write := by
    rw [metaTags, metaTagList_eq, List.flatMap_map]
  rw [Markup.readTags, lines, Markup.run_lines (by decide) isNamed_of_mem_intendedTags]
  rfl

end Page

end StaticSite
