import StaticSite.Proofs.Fault
import StaticSite.Proofs.Link.Resolving
import StaticSite.Proofs.Page.Address
import StaticSite.Proofs.Template

/-!
# Links of index pages

A link of an index page to a page beside it is made into a path from the root, which begins at the
folder of both.  A path from the root keeps the host of the site and drops the path of its address,
so the link leads to the page if the site is the root of its host, and past it otherwise.
-/

namespace StaticSite

namespace Page

/-- A link as it is written in a page. -/
def linkTo (target : Text) : Text := "href=\"".toList ++ (target ++ ['"'])

/-- The target of the link that a text begins with: what is between the quotation marks. -/
def targetOf (text : Text) : Text := ((text.dropWhile (· ≠ '"')).drop 1).takeWhile (· ≠ '"')

/-- Whether a path from the root can be a target as it is: no quotation mark cuts it off, and no
segment of it is one of dots. -/
def IsPlainTarget (target : Text) : Prop :=
  '"' ∉ target ∧ Link.Dotless (Link.Reference.parse target).path

instance (target : Text) : Decidable (IsPlainTarget target) := inferInstanceAs (Decidable (_ ∧ _))

/-- Whether a link leads from the address of a site to the page of an output. -/
def LeadsTo (context : Context) (target : Text) (output : Path) : Prop :=
  canonicalURL context.config.baseURL output context.outputDirectory =
    .ok (Link.resolve context.config.baseURL target)

/-- Whether a document and an address are those of the finished page of a job: the document is the
template of the job with the values of the page, of which one is the content. -/
structure Finished (context : Context) (job : Job) (content template : Text)
    (values : Dictionary Text) (document url : Text) : Prop where
  found : context.templates.get? (templateName job context) = some template
  made : Page.context job content (metaTags job.fields url) context = .ok values
  holds : values.get? "Content" = some content
  rendered : document = Template.render template values

variable {context : Context} {job : Job} {address : Link.Address} {folder : List Text}
  {stem before after html content template document url : Text} {values : Dictionary Text}

theorem linkTo_append (target rest : Text) :
    linkTo target ++ rest = "href=\"".toList ++ (target ++ '"' :: rest) := by
  delta linkTo
  simp only [List.append_assoc, List.singleton_append]

theorem targetOf_linkTo (target rest : Text) :
    targetOf (linkTo target ++ rest) = target.takeWhile (· ≠ '"') := by
  have cut (text : Text) : (text ++ '"' :: rest).takeWhile (· ≠ '"') = text.takeWhile (· ≠ '"') := by
    induction text with
    | nil => rfl
    | cons character text ih => rw [List.cons_append, List.takeWhile_cons, ih, List.takeWhile_cons]
  rw [linkTo_append, ← cut]
  rfl

/-- Rewriting puts a directory in front of the target of a relative link. -/
theorem exists_rewriteLinks (noSlash : '/' ∉ stem) (before after directory : Text) :
    ∃ rest, Template.rewriteLinks (before ++ (linkTo ("./".toList ++ stem) ++ after)) directory =
      Template.rewriteLinks before directory ++ (linkTo (directory ++ stem) ++ rest) := by
  have solitary : Text.Solitary ("href=\"".toList ++ "./".toList) :=
    ⟨by decide, Text.passes_of_not_mem (by decide)⟩
  have passes : Text.Passes "./".toList (stem ++ ['"']) := by
    show Text.Passes ['.', '/'] (stem ++ ['"'])
    exact Text.passes_of_second_not_mem (by simp [noSlash]) (by simp)
  obtain ⟨rest, kept⟩ := Text.exists_replace_append passes "href=\"".toList directory after
  have parted := Text.replace_append_mark_append solitary ("href=\"".toList ++ directory) before
    (stem ++ ['"'] ++ after)
  rw [kept] at parted
  simp only [List.append_assoc, List.singleton_append] at parted
  refine ⟨rest, ?_⟩
  rw [linkTo_append, linkTo_append, List.append_assoc, List.append_assoc]
  exact parted

theorem get?_content_of_context {tags : Text}
    (made : Page.context job content tags context = .ok values) :
    values.get? "Content" = some content := by
  have others : "Content".toList ∉ ["Lang".toList, "MetaTags".toList, "Reload".toList] := by decide
  unfold Page.context at made
  obtain ⟨dates, -, made⟩ := bind_eq_ok_iff.1 made
  cases made
  exact Dictionary.get?_ofList_append_cons _ others

/-- Every page that is rendered is finished with the content that has absolute links. -/
theorem exists_finished_of_render (rendered : render job html context = .ok (document, url)) :
    ∃ content template values, linkedContent job html context = .ok content ∧
      Finished context job content template values document url := by
  unfold render at rendered
  obtain ⟨⟨name, template⟩, resolved, rendered⟩ := bind_eq_ok_iff.1 rendered
  obtain ⟨content, linked, rendered⟩ := bind_eq_ok_iff.1 rendered
  obtain ⟨canonical, -, rendered⟩ := bind_eq_ok_iff.1 rendered
  obtain ⟨values, made, rendered⟩ := bind_eq_ok_iff.1 rendered
  cases rendered
  refine ⟨content, template, values, linked, ?_, made, get?_content_of_context made, rfl⟩
  rw [resolveTemplate] at resolved
  cases found : context.templates.get? (templateName job context) with
  | none =>
      simp only [found] at resolved
      cases resolved
  | some known =>
      simp only [found, Except.ok.injEq, Prod.mk.injEq] at resolved
      rw [resolved.2]

/-- A finished page shows its content where the template has the marker, unless a value disturbs
it. -/
theorem Finished.infix (finished : Finished context job content template values document url)
    (undisturbed : Template.Undisturbed template values.entries)
    (shown : Template.marker "Content" <:+: template) : content <:+: document := by
  rw [finished.rendered]
  exact Template.infix_render (apart_of_context finished.made) undisturbed finished.holds shown

/-- The place of a page below the root leads to the page exactly if the site is the root of its
host and the place can be a target as it is. -/
theorem leadsTo_iff (based : context.config.baseURL = address.text)
    (folders : ∀ name ∈ folder, IsName name) (page : IsName (stem ++ ".html".toList))
    (other : stem ≠ "index".toList) :
    LeadsTo context (('/' :: addressText folder stem).takeWhile (· ≠ '"'))
        (context.outputDirectory.extend (folder ++ [stem ++ ".html".toList])) ↔
      address.path = ['/'] ∧ IsPlainTarget ('/' :: addressText folder stem) := by
  have canonical : canonicalURL context.config.baseURL
      (context.outputDirectory.extend (folder ++ [stem ++ ".html".toList]))
      context.outputDirectory = .ok (address.text ++ addressText folder stem) := by
    rw [canonicalURL, canonicalPath_extend page, if_neg other, based]
    rfl
  have cut : ('/' :: addressText folder stem).takeWhile (· ≠ '"') =
      '/' :: (addressText folder stem).takeWhile (· ≠ '"') := by
    simp
  have whole : (addressText folder stem).takeWhile (· ≠ '"') = addressText folder stem ↔
      '"' ∉ '/' :: addressText folder stem := by
    rw [List.takeWhile_eq_self_iff, List.mem_cons, not_or, and_iff_right (by decide)]
    exact ⟨fun plain quote => by simpa using plain _ quote, Link.all_ne_of_not_mem⟩
  rw [LeadsTo, canonical, based, cut, Except.ok.injEq, eq_comm,
    Link.resolve_eq_iff address (head?_addressText_ne_slash folders (noSlash_of_page page))
      (List.takeWhile_prefix _), whole]
  refine and_congr_right fun _ => and_congr_right fun plain => ?_
  rw [whole.2 plain]

/-- In the content of an index page, a link to a page beside it becomes a path from the root, the
place of that page below the output directory.  From the address of the site it leads to that place
at the host, whatever the path of the address is; so it leads to the page exactly if the site is the
root of its host and the place can be a target as it is. -/
theorem index_links_lead_to_pages_iff (based : context.config.baseURL = address.text)
    (folders : ∀ name ∈ folder, IsName name)
    (index : job.output = context.outputDirectory.extend (folder ++ [indexName]))
    (page : IsName (stem ++ ".html".toList)) (other : stem ≠ "index".toList)
    (rendered : render job (before ++ (linkTo ("./".toList ++ stem) ++ after)) context =
      .ok (document, url)) :
    ∃ link template values,
      linkTo ('/' :: addressText folder stem) <+: link ∧
      Finished context job (Template.rewriteLinks before ('/' :: folderText folder) ++ link)
        template values document url ∧
      (Template.Undisturbed template values.entries → Template.marker "Content" <:+: template →
        Template.rewriteLinks before ('/' :: folderText folder) ++ link <:+: document) ∧
      (IsPlainTarget ('/' :: addressText folder stem) →
        Link.resolve context.config.baseURL (targetOf link) =
          address.origin ++ '/' :: addressText folder stem) ∧
      (LeadsTo context (targetOf link)
          (context.outputDirectory.extend (folder ++ [stem ++ ".html".toList])) ↔
        address.path = ['/'] ∧ IsPlainTarget ('/' :: addressText folder stem)) := by
  obtain ⟨content, template, values, linked, finished⟩ := exists_finished_of_render rendered
  obtain ⟨rest, rewritten⟩ :=
    exists_rewriteLinks (noSlash_of_page page) before after ('/' :: folderText folder)
  have absolute : '/' :: folderText folder ++ stem = '/' :: addressText folder stem := by
    rw [addressText_eq, List.cons_append]
  have whole : content = Template.rewriteLinks before ('/' :: folderText folder) ++
      (linkTo ('/' :: addressText folder stem) ++ rest) := by
    rw [linkedContent, index, Path.name_extend, if_pos rfl, indexDirectory_extend folders] at linked
    cases linked
    rw [rewritten, absolute]
  subst whole
  refine ⟨_, template, values, List.prefix_append _ rest, finished, finished.infix, ?_, ?_⟩
  · rintro ⟨plain, dotless⟩
    have single := head?_addressText_ne_slash folders (noSlash_of_page page)
    rw [targetOf_linkTo, List.takeWhile_eq_self_iff.2 (Link.all_ne_of_not_mem plain), based]
    exact Link.resolve_of_dotless address single dotless
  · rw [targetOf_linkTo]
    exact leadsTo_iff based folders page other

section Example

/-- The address of a site that is the root of its host. -/
def rootAddress : Link.Address where
  scheme := "https"
  host := "e.org"
  path := "/"
  isScheme := ⟨'h', "ttps", rfl, by decide, by decide⟩
  isHost := by decide
  isPath := by decide
  fromRoot := rfl

/-- The address of a site in a folder of its host. -/
def blogAddress : Link.Address :=
  { rootAddress with path := "/blog/", isPath := by decide, fromRoot := rfl }

/-- A site at an address, of which the pages are their content and nothing else. -/
def bareSite (address : Link.Address) : Context where
  root := {}
  config := ⟨address.text, Config.defaultLanguage, []⟩
  templates := Dictionary.ofList [(defaultTemplate, "\x7b\x7b .Content \x7d\x7d")]
  components := ∅

def docsJob : Job where
  source := ⟨.here, ["public", "docs", "index.md"]⟩
  output := ⟨.here, ["public", "docs", indexName]⟩
  fields := ∅
  body := []

/-- The page of a guide beside the index page. -/
def guideOutput : Path := ⟨.here, ["public", "docs", "guide.html"]⟩

/-- The content of the index page, with a link to the guide. -/
def guideLink : Text := "<a ".toList ++ (linkTo ("./".toList ++ "guide".toList) ++ ">".toList)

theorem index_links_lead_to_pages_guide :
    (bareSite rootAddress).config.baseURL = rootAddress.text ∧
      (∀ name ∈ ["docs".toList], IsName name) ∧
      docsJob.output =
        (bareSite rootAddress).outputDirectory.extend (["docs".toList] ++ [indexName]) ∧
      IsName ("guide".toList ++ ".html".toList) ∧ "guide".toList ≠ "index".toList ∧
      render docsJob guideLink (bareSite rootAddress) =
        .ok ("<a href=\"/docs/guide\">".toList, "https://e.org/docs/".toList) ∧
      ∃ link, linkTo "/docs/guide" <+: link ∧
        Link.resolve rootAddress.text (targetOf link) = "https://e.org/docs/guide".toList ∧
        LeadsTo (bareSite rootAddress) (targetOf link) guideOutput := by
  have folders : ∀ name ∈ ["docs".toList], IsName name := by decide
  have rendered : render docsJob guideLink (bareSite rootAddress) =
      .ok ("<a href=\"/docs/guide\">".toList, "https://e.org/docs/".toList) := rfl
  have plain : IsPlainTarget ('/' :: addressText ["docs".toList] "guide".toList) := by decide
  obtain ⟨link, -, -, begins, -, -, place, leads⟩ :=
    index_links_lead_to_pages_iff rfl folders rfl (by decide : IsName "guide.html".toList)
      (by decide) rendered
  exact ⟨rfl, folders, rfl, by decide, by decide, rendered, link, begins, place plain,
    leads.2 ⟨rfl, plain⟩⟩

/-- Where the site is in a folder of its host, the link leads past that folder; as it was written,
it led from the index page to the guide. -/
theorem not_leadsTo_guide :
    Config.siteConfig [(.text "baseURL", .text "https://e.org/blog/")] =
        .ok (bareSite blogAddress).config ∧
      render docsJob guideLink (bareSite blogAddress) =
        .ok ("<a href=\"/docs/guide\">".toList, "https://e.org/blog/docs/".toList) ∧
      Link.resolve blogAddress.text "/docs/guide" = "https://e.org/docs/guide".toList ∧
      canonicalURL blogAddress.text guideOutput (bareSite blogAddress).outputDirectory =
        .ok "https://e.org/blog/docs/guide".toList ∧
      Link.resolve "https://e.org/blog/docs/" "./guide" = "https://e.org/blog/docs/guide".toList ∧
      ¬ LeadsTo (bareSite blogAddress) "/docs/guide" guideOutput := by
  have resolved : Link.resolve blogAddress.text "/docs/guide" =
      "https://e.org/docs/guide".toList := by decide
  have canonical : canonicalURL blogAddress.text guideOutput
      (bareSite blogAddress).outputDirectory = .ok "https://e.org/blog/docs/guide".toList := rfl
  refine ⟨rfl, rfl, resolved, canonical, by decide, fun leads => ?_⟩
  have same := canonical.symm.trans leads
  rw [show (bareSite blogAddress).config.baseURL = blogAddress.text from rfl, resolved,
    Except.ok.injEq] at same
  exact absurd same (by decide)

end Example

end Page

end StaticSite
