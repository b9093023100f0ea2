import StaticSite.Markup

/-!
# Sitemaps

A sitemap lists the addresses of the pages of a site, each once, in the order in which they
were made.
-/

namespace StaticSite

namespace Sitemap

def fileName : Text := "sitemap.xml"

/-- Add an address; an empty one and one that is listed already are left out. -/
def add (urls : List Text) (url : Text) : List Text :=
  if url = [] ∨ url ∈ urls then urls else urls ++ [url]

def urlLines (url : Text) : List Text :=
  ["  <url>", "    <loc>" ++ Markup.escape url ++ "</loc>", "  </url>"]

/-- The lines in front of the addresses. -/
def heading : List Text :=
  ["<?xml version=\"1.0\" encoding=\"UTF-8\"?>",
    "<urlset xmlns=\"http://www.sitemaps.org/schemas/sitemap/0.9\">"]

/-- The line behind the addresses. -/
def ending : List Text := ["</urlset>"]

def text (urls : List Text) : Text :=
  Text.join "\n"
    (heading ++ urls.flatMap urlLines ++ ending)

end Sitemap

end StaticSite
