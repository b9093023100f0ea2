import StaticSite.Proofs.FileTree.Contents
import StaticSite.Proofs.NewSite.Building

/-!
# New sites that are published as they are

The name of a new site goes as it is into its configuration and into its index page.  The site is
built with its page and its address exactly if the name does not end the text of the configuration
that it stands in, and does not forbid the page to be listed.
-/

namespace StaticSite

namespace NewSite

open StaticSite.Action FileTree

/-- What the index page of a new site has in front of the name. -/
def pageFront : Text :=
  "<!DOCTYPE html>\n" ++
  "<html lang=\"en-us\">\n" ++
  "<head>\n" ++
  "  <meta charset=\"utf-8\">\n" ++
  "  <meta name=\"viewport\" content=\"width=device-width, initial-scale=1.0\">\n" ++
  "  <title>".toList

/-- What the index page of a new site has behind the name. -/
def pageBack : Text :=
  "</title>\n" ++
  "</head>\n" ++
  "<body>\n" ++
  "  <h1>Hello World!</h1>\n" ++
  "</body>\n" ++
  "</html>\n".toList

theorem indexPage_eq (name : Text) : indexPage name = pageFront ++ name ++ pageBack := by
  unfold indexPage pageFront pageBack
  simp only [List.append_assoc]

/-- The index page forbids to be listed only if the name has the tag for it. -/
theorem noIndexTag_infix_indexPage_iff {name : Text} :
    Page.noIndexTag <:+: indexPage name ↔ Page.noIndexTag <:+: name := by
  rw [indexPage_eq]
  constructor
  · apply Text.infix_of_infix_between
    · intro first member
      obtain rfl : '<' = first := Option.some.inj member
      decide
    · intro last member
      obtain rfl : '>' = last := Option.some.inj member
      decide
    · rw [← Text.cut?_eq_none_iff]
      cbv
    · rw [← Text.cut?_eq_none_iff]
      cbv
  · intro inside
    exact inside.trans ⟨pageFront, pageBack, rfl⟩

variable {before made after : Workspace} {parent site : Path} {location : Location}
  {name base : Text} {clock : Int}

/-- A build of a site with default options succeeds, and the finished site holds just an index page
and a sitemap, which lists one address. -/
structure BuildsAlone (site : Path) (base : Text) (before after : Workspace) : Prop where
  runs : ∃ result, Runs (Build.site { root := site }) before result after
  holds : ∃ output, after.files.Opens (site.child Context.outputName) output ∧
    after.files.HasFile (output ++ [Page.indexName]) ∧
    after.files.content? (output ++ [Sitemap.fileName]) =
      some (Utf8.encode (Sitemap.text [base])) ∧
    ∀ parts, after.files.node? (output ++ parts) ≠ none →
      parts = [] ∨ parts = [Page.indexName] ∨ parts = [Sitemap.fileName]

theorem mem_of_text {urls : List Text} (same : Sitemap.text urls = Sitemap.text [base]) :
    base ∈ urls := by
  rw [← Sitemap.location_infix_text_iff, same, Sitemap.location_infix_text_iff]
  exact List.mem_singleton_self base

theorem node?_sitemap {files : FileTree} {output : Location} {content : Text} {urls : List Text}
    {clock : Int} (holds : files.Holds output (finished content urls clock)) :
    files.node? (output ++ [Sitemap.fileName]) =
      some (.file (Utf8.encode (Sitemap.text urls)) clock) :=
  holds [Sitemap.fileName]

theorem node?_index {files : FileTree} {output : Location} {content : Text} {urls : List Text}
    {clock : Int} (holds : files.Holds output (finished content urls clock)) :
    files.node? (output ++ [Page.indexName]) = some (.file (Utf8.encode content) clock) :=
  holds [Page.indexName]

theorem eq_of_finished {files : FileTree} {output : Location} {content : Text} {urls : List Text}
    {clock : Int} {parts : List Text} (holds : files.Holds output (finished content urls clock))
    (held : files.node? (output ++ parts) ≠ none) :
    parts = [] ∨ parts = [Page.indexName] ∨ parts = [Sitemap.fileName] := by
  by_contra apart
  simp only [not_or] at apart
  rw [holds, finished, lookup, if_neg (Ne.symm apart.1), lookup, if_neg (Ne.symm apart.2.1), lookup,
    if_neg (Ne.symm apart.2.2)] at held
  exact held rfl

/-- What the page of a site says whose name may stand between single quotes is what was written. -/
theorem contains_noIndexTag_iff (literal : Config.Toml.IsLiteral name) :
    Text.contains Page.noIndexTag (Text.unifyLineEnds (indexPage name)) = true ↔
      Page.noIndexTag <:+: name := by
  have plain : '\r' ∉ indexPage name := by
    rw [indexPage_eq, List.mem_append, List.mem_append, not_or, not_or]
    exact ⟨⟨by decide, noReturn_of_isLiteral literal⟩, by decide⟩
  rw [Text.contains_iff, Text.unifyLineEnds_of_not_mem plain, noIndexTag_infix_indexPage_iff]

/-- Of a new site that is built with its own address, the name may be read back and does not forbid
the page to be listed. -/
theorem Made.of_buildsAlone (made : Made site location name clock before)
    (alone : BuildsAlone site (baseOf name) before after) :
    Config.Toml.IsLiteral name ∧ ¬ Page.noIndexTag <:+: name := by
  obtain ⟨⟨result, built⟩, output, opened, -, listed, -⟩ := alone
  obtain ⟨stages, -, -⟩ := Build.exists_stages built
  obtain ⟨-, -, -, configured⟩ := Build.runs_prepare stages.prepares
  have read : settings site name = .ok stages.context.config := made.readSite.symm.trans configured
  obtain ⟨other, ran, last⟩ := made.exists_built read
  obtain rfl : other = after := (Prod.mk.inj (ran.symm.trans built)).2
  obtain rfl : output = location ++ [Context.outputName] :=
    Except.ok.inj (opened.1.symm.trans last.opens.1)
  obtain ⟨modified, written⟩ := content?_eq_some_iff.1 listed
  have octets := (Node.file.inj (Option.some.inj (written.symm.trans (node?_sitemap last.holds)))).1
  have member := mem_of_text (Utf8.encode_injective octets.symm)
  unfold addresses at member
  split at member
  · cases member
  · next unmarked =>
      have literal := isLiteral_of_settings read (List.mem_singleton.1 member).symm
      exact ⟨literal, fun inside => unmarked ((contains_noIndexTag_iff literal).2 inside)⟩

theorem Made.exists_buildsAlone (made : Made site location name clock before)
    (literal : Config.Toml.IsLiteral name) (unmarked : ¬ Page.noIndexTag <:+: name) :
    ∃ after, BuildsAlone site (baseOf name) before after := by
  obtain ⟨after, ran, last⟩ := made.exists_built (settings_of_isLiteral site literal)
  have urls : addresses ⟨baseOf name, "en-us", name⟩ (Text.unifyLineEnds (indexPage name)) =
      [baseOf name] :=
    if_neg fun marked => unmarked ((contains_noIndexTag_iff literal).1 marked)
  rw [urls] at last
  exact ⟨after, ⟨_, ran⟩, _, last.opens, ⟨_, _, node?_index last.holds⟩,
    content?_eq_some_iff.2 ⟨_, node?_sitemap last.holds⟩, fun parts => eq_of_finished last.holds⟩

/-- A site that is made below a directory that is there is built with its page and lists its own
address alone exactly if its name may stand between single quotes and has not the tag that forbids a
page to be listed. -/
theorem builds_new_site_iff (wellFormed : before.files.WellFormed)
    (descends : Descends before.files site)
    (created : Runs (create parent name) before site made) :
    (∃ after, BuildsAlone site (baseOf name) made after) ↔
      Config.Toml.IsLiteral name ∧ ¬ Page.noIndexTag <:+: name := by
  obtain ⟨location, stage⟩ := exists_made wellFormed descends created
  constructor
  · rintro ⟨after, alone⟩
    exact stage.of_buildsAlone alone
  · rintro ⟨literal, unmarked⟩
    exact stage.exists_buildsAlone literal unmarked

namespace Example

/-- A workspace without files. -/
def start : Workspace := { files := ⟨[], []⟩ }

theorem wellFormed_start : start.files.WellFormed := ⟨by decide, by decide, by decide⟩

theorem opens_start : start.files.Opens {} [] := ⟨rfl, rfl⟩

theorem builds_new :
    ∃ made, start.files.WellFormed ∧ Descends start.files ⟨.here, ["new"]⟩ ∧
      Runs (create {} "new") start ⟨.here, ["new"]⟩ made ∧
      ((∃ after, BuildsAlone ⟨.here, ["new"]⟩ (baseOf "new") made after) ↔
        Config.Toml.IsLiteral "new" ∧ ¬ Page.noIndexTag <:+: "new".toList) := by
  have descends : Descends start.files (Path.append {} (Path.parse "new")) :=
    descends_of_opens opens_start (by decide)
  obtain ⟨made, created⟩ : ∃ made, Runs (create {} "new") start ⟨.here, ["new"]⟩ made :=
    exists_created wellFormed_start opens_start (by decide) (by decide) rfl (by decide) (by decide)
  exact ⟨made, wellFormed_start, descends, created,
    builds_new_site_iff wellFormed_start descends created⟩

/-- A single quote in the name ends the text that it stands in, and the configuration is no longer
read. -/
theorem not_builds_quoted :
    ∃ made, Runs (create {} "it's") start ⟨.here, ["it's"]⟩ made ∧
      ¬ ∃ after, BuildsAlone ⟨.here, ["it's"]⟩ (baseOf "it's") made after := by
  have descends : Descends start.files (Path.append {} (Path.parse "it's")) :=
    descends_of_opens opens_start (by decide)
  obtain ⟨made, created⟩ : ∃ made, Runs (create {} "it's") start ⟨.here, ["it's"]⟩ made :=
    exists_created wellFormed_start opens_start (by decide) (by decide) rfl (by decide) (by decide)
  obtain ⟨location, stage⟩ := exists_made wellFormed_start descends created
  refine ⟨made, created, ?_⟩
  rintro ⟨after, alone⟩
  exact absurd (stage.of_buildsAlone alone).1 (by decide)

end Example

end NewSite

end StaticSite
