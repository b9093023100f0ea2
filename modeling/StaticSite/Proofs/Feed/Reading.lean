import StaticSite.Feed
import StaticSite.Proofs.Markup.Reading

/-!
# Reading feeds and sitemaps

A feed is read by its tags: the channel's own elements stand in front of its first item, and each
item has elements of its own.  What is read from a feed or a sitemap is what it was written from,
whatever characters the texts have.
-/

namespace StaticSite

namespace Feed

open Markup

/-- What an item of a feed says of a post. -/
structure Item where
  title : Text
  link : Text
  published : Text
  description : Text

/-- What a feed says of itself and of its posts. -/
structure Channel where
  title : Text
  link : Text
  description : Text
  language : Text
  items : List Item

def readItem (text : Text) : Option Item := do
  return {
    title := ← field? "title" text
    link := ← field? "link" text
    published := ← field? "pubDate" text
    description := ← field? "description" text }

/-- Read the text of a feed.  The elements of the channel itself are those in front of its first
item. -/
def read (text : Text) : Option Channel := do
  let (channel, _) ← element? "channel" text
  let own := ((Text.cut? (Part.tag "item").write channel).map Prod.fst).getD channel
  return {
    title := ← field? "title" own
    link := ← field? "link" own
    description := ← field? "description" own
    language := ← field? "language" own
    items := ← (elements "item" channel).mapM readItem }

/-- The item of an entry. -/
def item (entry : FeedEntry) : Item :=
  ⟨entry.title, entry.link, entry.publishedText, entry.description⟩

/-- The elements of an item with their texts. -/
def itemFields (entry : FeedEntry) : List (Text × Text) :=
  [("title", entry.title), ("link", entry.link), ("pubDate", entry.publishedText),
    ("description", entry.description)]

/-- The elements of a channel itself with their texts. -/
def ownFields (fields : Fields) (base language : Text) : List (Text × Text) :=
  [("title", fields.getD "title" "RSS Feed"), ("link", base),
    ("description", fields.getD "desc" "My RSS Feed"), ("language", language)]

/-- What stands between the tags of an item. -/
def itemInside (entry : FeedEntry) : List Part :=
  [.plain "\n"] ++ (itemFields entry).flatMap (line "      ") ++ [.plain "    "]

def itemParts (entry : FeedEntry) : List Part :=
  [.plain "    "] ++ .tag "item" :: itemInside entry ++ .tag "/item" :: [.plain "\n"]

/-- What stands between the tags of a channel. -/
def inside (fields : Fields) (entries : List FeedEntry) (base language : Text) : List Part :=
  [.plain "\n"] ++ (ownFields fields base language).flatMap (line "    ") ++
    (entries.flatMap itemParts ++ [.plain "  "])

def front : List Part :=
  [.tag "?xml version=\"1.0\" encoding=\"UTF-8\"?", .plain "\n",
    .tag "rss xmlns:atom=\"http://www.w3.org/2005/Atom\" version=\"2.0\"", .plain "\n  "]

theorem write_line (indent name : String) (content : Text) :
    element indent name content ++ "\n".toList = write (line indent (name.toList, content)) := by
  simp [element, line, Markup.element, write, Part.write]

theorem write_itemParts (entry : FeedEntry) :
    (itemLines entry).flatMap (· ++ "\n".toList) = write (itemParts entry) := by
  simp only [itemLines, itemParts, itemInside, itemFields, List.flatMap_cons, List.flatMap_nil,
    write_line, write_append, write_cons]
  simp [write, Part.write]

theorem text_eq (fields : Fields) (entries : List FeedEntry) (base language : Text) :
    text fields entries base language =
      write (front ++ .tag "channel" :: inside fields entries base language ++
        .tag "/channel" :: [.plain "\n", .tag "/rss"]) := by
  have ends : ending = ["  </channel>".toList] ++ ["</rss>".toList] := rfl
  have items : (entries.flatMap itemLines).flatMap (· ++ "\n".toList) =
      write (entries.flatMap itemParts) := by
    rw [List.flatMap_assoc, write, List.flatMap_assoc]
    exact congrArg (List.flatMap · entries) (funext write_itemParts)
  rw [text, lines, ends, ← List.append_assoc, Text.join_append_singleton, List.flatMap_append,
    List.flatMap_append, items]
  simp only [heading, inside, ownFields, List.flatMap_cons, List.flatMap_nil, write_line,
    write_append, write_cons, front]
  simp [write, Part.write]

theorem lacks_break {label : Text} : Lacks label [.plain "\n"] := by
  simp [Lacks, Part.WellFormed]

section Items

variable {entry : FeedEntry}

/-- The names of the elements of an item. -/
def itemNames : List Text := ["title", "link", "pubDate", "description"]

theorem names_itemFields (entry : FeedEntry) : (itemFields entry).map Prod.fst = itemNames := rfl

/-- The text of an element is read from an item. -/
theorem field?_item {name content : Text} (known : (itemFields entry).lookup name = some content) :
    field? name (write (itemInside entry)) = some content :=
  field?_lines (by decide) lacks_break (names_itemFields entry) (by decide) known _

theorem readItem_itemInside (entry : FeedEntry) :
    readItem (write (itemInside entry)) = some (item entry) := by
  have title : field? "title" (write (itemInside entry)) = some entry.title := field?_item rfl
  have link : field? "link" (write (itemInside entry)) = some entry.link := field?_item rfl
  have published : field? "pubDate" (write (itemInside entry)) = some entry.publishedText :=
    field?_item rfl
  have description : field? "description" (write (itemInside entry)) = some entry.description :=
    field?_item rfl
  rw [readItem, title, link, published, description]
  rfl

theorem mapM_readItem (entries : List FeedEntry) :
    (entries.map (write ∘ itemInside)).mapM readItem = some (entries.map item) := by
  induction entries with
  | nil => rfl
  | cons entry entries ih =>
      rw [List.map_cons, List.mapM_cons, Function.comp_apply, readItem_itemInside, ih]
      rfl

theorem lacks_itemInside {label : Text}
    (others : ∀ name ∈ itemNames, IsTagName name ∧ label ≠ name ∧ label ≠ '/' :: name) :
    Lacks label (itemInside entry) := by
  refine lacks_append.2 ⟨lacks_append.2 ⟨lacks_break, ?_⟩, ?_⟩
  · exact lacks_lines (by decide) (names_itemFields entry) others
  · simp [Lacks, Part.WellFormed]

/-- The elements of items are read in the order of the items. -/
theorem elements_items {before : List Part} (lacks : Lacks "item" before)
    (entries : List FeedEntry) :
    elements "item" (write (before ++ (entries.flatMap itemParts ++ [.plain "  "]))) =
      entries.map (write ∘ itemInside) := by
  induction entries generalizing before with
  | nil =>
      exact Lacks.elements_eq_nil (lacks_append.2 ⟨lacks, by decide⟩) (by decide)
  | cons entry entries ih =>
      have lead : Lacks "item" (before ++ [.plain "    "]) :=
        lacks_append.2 ⟨lacks, by decide⟩
      have inner : Lacks ('/' :: "item".toList) (itemInside entry) := lacks_itemInside (by decide)
      have parted : before ++ ((entry :: entries).flatMap itemParts ++ [.plain "  "]) =
          (before ++ [.plain "    "]) ++ .tag "item" :: itemInside entry ++
            .tag ('/' :: "item".toList) ::
              ([.plain "\n"] ++ (entries.flatMap itemParts ++ [.plain "  "])) := by
        simp [itemParts]
      rw [parted, elements_eq, element?_write (by decide) lead inner, List.map_cons]
      exact congrArg _ (ih lacks_break)

end Items

section Channels

variable {fields : Fields} {base language : Text}

/-- The names of the elements of a channel itself. -/
def ownNames : List Text := ["title", "link", "description", "language"]

theorem names_ownFields (fields : Fields) (base language : Text) :
    (ownFields fields base language).map Prod.fst = ownNames := rfl

/-- What a channel says of itself. -/
def ownParts (fields : Fields) (base language : Text) : List Part :=
  [.plain "\n"] ++ (ownFields fields base language).flatMap (line "    ")

theorem lacks_ownParts {label : Text}
    (others : ∀ name ∈ ownNames, IsTagName name ∧ label ≠ name ∧ label ≠ '/' :: name) :
    Lacks label (ownParts fields base language) :=
  lacks_append.2
    ⟨lacks_break, lacks_lines (by decide) (names_ownFields fields base language) others⟩

/-- The elements of the channel itself stand in front of its first item. -/
theorem exists_own (fields : Fields) (entries : List FeedEntry) (base language : Text) :
    ∃ back, ((Text.cut? (Part.tag "item").write
        (write (inside fields entries base language))).map Prod.fst).getD
          (write (inside fields entries base language)) =
      write (ownParts fields base language ++ back) := by
  have lacks : Lacks "item" (ownParts fields base language) := lacks_ownParts (by decide)
  cases entries with
  | nil =>
      have whole : Lacks "item" (inside fields [] base language) :=
        lacks_append.2 ⟨lacks, by decide⟩
      exact ⟨[.plain "  "], by rw [whole.cut?_eq_none (by decide)]; rfl⟩
  | cons entry entries =>
      have lead : Lacks "item" (ownParts fields base language ++ [.plain "    "]) :=
        lacks_append.2 ⟨lacks, by decide⟩
      have parted : inside fields (entry :: entries) base language =
          (ownParts fields base language ++ [.plain "    "]) ++ .tag "item" ::
            (itemInside entry ++ .tag "/item" :: [.plain "\n"] ++
              (entries.flatMap itemParts ++ [.plain "  "])) := by
        simp [inside, ownParts, itemParts]
      refine ⟨[.plain "    "], ?_⟩
      rw [parted, write_append, write_cons, lead.cut?_write (by decide)]
      rfl

/-- The text of an element of the channel itself is read from what stands in front of the items. -/
theorem field?_own {name content : Text}
    (known : (ownFields fields base language).lookup name = some content) (back : List Part) :
    field? name (write (ownParts fields base language ++ back)) = some content :=
  field?_lines (by decide) lacks_break (names_ownFields fields base language) (by decide) known back

theorem lacks_inside (fields : Fields) (entries : List FeedEntry) (base language : Text) :
    Lacks ('/' :: "channel".toList) (inside fields entries base language) := by
  refine lacks_append.2 ⟨lacks_ownParts (by decide), lacks_append.2 ⟨?_, ?_⟩⟩
  · refine .flatMap fun entry _ => ?_
    have inner : Lacks ('/' :: "channel".toList) (itemInside entry) := lacks_itemInside (by decide)
    have tags : Lacks ('/' :: "channel".toList) [.plain "    ", .tag "item"] ∧
        Lacks ('/' :: "channel".toList) [.tag "/item", .plain "\n"] := by decide
    have parted : itemParts entry = [.plain "    ", .tag "item"] ++ itemInside entry ++
        [.tag "/item", .plain "\n"] := rfl
    rw [parted]
    exact lacks_append.2 ⟨lacks_append.2 ⟨tags.1, inner⟩, tags.2⟩
  · simp [Lacks, Part.WellFormed]

/-- A feed is read as it was written. -/
theorem read_text_eq (fields : Fields) (entries : List FeedEntry) (base language : Text) :
    read (text fields entries base language) = some {
      title := fields.getD "title" "RSS Feed"
      link := base
      description := fields.getD "desc" "My RSS Feed"
      language := language
      items := entries.map item } := by
  have lead : Lacks "channel" front := by decide
  obtain ⟨back, own⟩ := exists_own fields entries base language
  have title := @field?_own fields base language "title" _ rfl back
  have link := @field?_own fields base language "link" _ rfl back
  have description := @field?_own fields base language "description" _ rfl back
  have tongue := @field?_own fields base language "language" _ rfl back
  have items : elements "item" (write (inside fields entries base language)) =
      entries.map (write ∘ itemInside) := elements_items (lacks_ownParts (by decide)) entries
  have found : element? "channel" (text fields entries base language) =
      some (write (inside fields entries base language), write [.plain "\n", .tag "/rss"]) := by
    rw [text_eq]
    exact element?_write (by decide) lead (lacks_inside fields entries base language) _
  have read := mapM_readItem entries
  simp only [Feed.read, found, Option.bind_eq_bind, Option.bind_some, own, title, link,
    description, tongue, items, read]
  rfl

end Channels

end Feed

namespace Sitemap

open Markup

/-- Read the addresses of a sitemap. -/
def read (text : Text) : List Text := (elements "loc" text).map decode

def front : List Part :=
  [.tag "?xml version=\"1.0\" encoding=\"UTF-8\"?", .plain "\n",
    .tag "urlset xmlns=\"http://www.sitemaps.org/schemas/sitemap/0.9\"", .plain "\n"]

def urlParts (url : Text) : List Part :=
  [.plain "  ", .tag "url", .plain "\n    "] ++ .tag "loc" :: [.plain (escape url)] ++
    .tag "/loc" :: [.plain "\n  ", .tag "/url", .plain "\n"]

theorem text_eq_write (urls : List Text) :
    text urls = write (front ++ (urls.flatMap urlParts ++ [.tag "/urlset"])) := by
  have lead : opening = write front := by
    simp [opening, heading, front, write, Part.write]
  have items : urls.flatMap item = write (urls.flatMap urlParts) := by
    rw [write, List.flatMap_assoc]
    refine congrArg (List.flatMap · urls) (funext fun url => ?_)
    simp [item, urlLines, urlParts, Part.write]
  rw [text_eq, lead, items, write_append, write_append]
  rfl

theorem elements_urls {before : List Part} (lacks : Lacks "loc" before) (urls : List Text) :
    elements "loc" (write (before ++ (urls.flatMap urlParts ++ [.tag "/urlset"]))) =
      urls.map escape := by
  induction urls generalizing before with
  | nil => exact Lacks.elements_eq_nil (lacks_append.2 ⟨lacks, by decide⟩) (by decide)
  | cons url urls ih =>
      have lead : Lacks "loc" (before ++ [.plain "  ", .tag "url", .plain "\n    "]) :=
        lacks_append.2 ⟨lacks, by decide⟩
      have inner : Lacks ('/' :: "loc".toList) [.plain (escape url)] := by
        simpa [Lacks, Part.WellFormed] using not_mem_escape url
      have parted : before ++ ((url :: urls).flatMap urlParts ++ [.tag "/urlset"]) =
          (before ++ [.plain "  ", .tag "url", .plain "\n    "]) ++ .tag "loc" ::
            [.plain (escape url)] ++ .tag ('/' :: "loc".toList) ::
              ([.plain "\n  ", .tag "/url", .plain "\n"] ++
                (urls.flatMap urlParts ++ [.tag "/urlset"])) := by
        simp [urlParts]
      rw [parted, elements_eq, element?_write (by decide) lead inner, List.map_cons]
      simp only [ih (show Lacks "loc" [.plain "\n  ", .tag "/url", .plain "\n"] by decide)]
      simp [write, Part.write]

/-- The addresses of a sitemap are read as they were listed. -/
theorem read_text_eq (urls : List Text) : read (text urls) = urls := by
  rw [read, text_eq_write, elements_urls (by decide), List.map_map]
  simp [Function.comp_def, decode_escape]

end Sitemap

/-- Feeds and sitemaps can be read back.  A reader that finds elements by their tags and decodes
the escaped characters recovers from a feed what its channel says of itself and, in their order,
the title, the link, the date and the description of every entry, and from a sitemap the
addresses in their order. -/
theorem reads_as_written :
    (∀ fields entries base language,
      Feed.read (Feed.text fields entries base language) = some {
        title := fields.getD "title" "RSS Feed"
        link := base
        description := fields.getD "desc" "My RSS Feed"
        language := language
        items := entries.map fun entry => {
          title := entry.title
          link := entry.link
          published := entry.publishedText
          description := entry.description } }) ∧
    ∀ urls, Sitemap.read (Sitemap.text urls) = urls :=
  ⟨Feed.read_text_eq, Sitemap.read_text_eq⟩

end StaticSite
