import StaticSite.Proofs.Text.Splitting
import StaticSite.Sitemap

/-!
# What a sitemap says

The text of a sitemap has an element with an address exactly if the address is listed: an escaped
address has no bracket that could begin or end an element, and it stands for one address only.
-/

namespace StaticSite

namespace Text

variable {mark : Char} {part piece before after : Text}

theorem splitOn_append_mark :
    splitOn (· = mark) (before ++ mark :: after) =
      splitOn (· = mark) before ++ splitOn (· = mark) after := by
  induction before with
  | nil => simp [splitOn]
  | cons character before ih =>
      by_cases isMark : character = mark
      · simp [splitOn, isMark, ih]
      · cases parts : splitOn (· = mark) before with
        | nil => exact absurd parts (splitOn_ne_nil _ before)
        | cons first others => simp [splitOn, isMark, ih, parts]

theorem splitOn_eq_singleton (unmarked : mark ∉ part) : splitOn (· = mark) part = [part] := by
  apply splitOn_of_all
  intro character member
  rw [decide_eq_false_iff_not]
  rintro rfl
  exact unmarked member

theorem splitOn_append_of_unmarked {first : Text} {others : List Text} (unmarked : mark ∉ part)
    (parts : splitOn (· = mark) after = first :: others) :
    splitOn (· = mark) (part ++ after) = (part ++ first) :: others := by
  induction part with
  | nil => exact parts
  | cons character part ih =>
      have plain : character ≠ mark := fun same => unmarked (same ▸ List.mem_cons_self)
      have rest := ih fun member => unmarked (List.mem_cons_of_mem _ member)
      simp [splitOn, plain, rest]

theorem splitOn_append {last first : Text} {parts others : List Text}
    (front : splitOn (· = mark) before = parts ++ [last])
    (back : splitOn (· = mark) after = first :: others) :
    splitOn (· = mark) (before ++ after) = parts ++ (last ++ first) :: others := by
  induction parts generalizing before with
  | nil =>
      obtain ⟨plain, same | ⟨_, rest, -, -, none⟩⟩ := splitOn_cases front
      · have unmarked : mark ∉ last := fun member => by simpa using plain mark member
        rw [same.1]
        exact splitOn_append_of_unmarked unmarked back
      · exact absurd none.symm (splitOn_ne_nil _ rest)
  | cons part parts ih =>
      obtain ⟨plain, same | ⟨other, rest, isMark, rfl, later⟩⟩ := splitOn_cases front
      · exact absurd same.2 (by simp)
      · obtain rfl : other = mark := by simpa using isMark
        have unmarked : other ∉ part := fun member => by simpa using plain other member
        rw [List.append_assoc, List.cons_append, splitOn_append_mark,
          splitOn_eq_singleton unmarked, ih later.symm]
        rfl

/-- A part that begins differently from all parts of a text is none of them, and it does not begin
in the last of them. -/
theorem mem_splitOn_of_append {last : Text} {parts : List Text}
    (front : splitOn (· = mark) before = parts ++ [last]) (nonempty : last ≠ [])
    (other : ∀ part ∈ parts ++ [last], part.head? ≠ piece.head?)
    (member : piece ∈ splitOn (· = mark) (before ++ after)) : piece ∈ splitOn (· = mark) after := by
  cases back : splitOn (· = mark) after with
  | nil => exact absurd back (splitOn_ne_nil _ _)
  | cons first others =>
      rw [splitOn_append front back] at member
      rcases List.mem_append.1 member with early | inside
      · exact absurd rfl (other piece (List.mem_append_left _ early))
      · rcases List.mem_cons.1 inside with rfl | later
        · have begins : (last ++ first).head? = last.head? :=
            List.head?_append_of_ne_nil last nonempty
          exact absurd begins.symm (other last (by simp))
        · exact List.mem_cons_of_mem _ later

end Text

namespace Markup

variable {first second : Char} {text other front back : Text}

theorem escapeChar_append_inj (same : escapeChar first ++ front = escapeChar second ++ back) :
    first = second ∧ front = back := by
  unfold escapeChar at same
  split_ifs at same <;> simp_all <;> exact absurd same.1.symm ‹_›

theorem escapeChar_ne_nil (character : Char) : escapeChar character ≠ [] := by
  unfold escapeChar
  split_ifs <;> simp

theorem escape_injective : Function.Injective escape := by
  intro text other same
  induction text generalizing other with
  | nil =>
      cases other with
      | nil => rfl
      | cons character other =>
          exact absurd (List.append_eq_nil_iff.1 same.symm).1 (escapeChar_ne_nil character)
  | cons character text ih =>
      cases other with
      | nil =>
          exact absurd (List.append_eq_nil_iff.1 same).1 (escapeChar_ne_nil character)
      | cons next other =>
          obtain ⟨rfl, rest⟩ := escapeChar_append_inj same
          rw [ih rest]

theorem not_mem_escape (text : Text) : '<' ∉ escape text := by
  intro member
  obtain ⟨character, -, inside⟩ := List.mem_flatMap.1 member
  unfold escapeChar at inside
  split_ifs at inside <;> simp_all
  exact absurd inside.symm ‹_›

end Markup

namespace Sitemap

variable {url : Text} {urls : List Text}

/-- The element with an address. -/
def location (url : Text) : Text := "<loc>" ++ Markup.escape url ++ "</loc>"

/-- The lines of an address, each with its end. -/
def item (url : Text) : Text := (urlLines url).flatMap (· ++ "\n".toList)

/-- The lines in front of the addresses, each with its end. -/
def opening : Text := heading.flatMap (· ++ "\n".toList)

theorem location_eq (url : Text) :
    location url = '<' :: (("loc>".toList ++ Markup.escape url) ++ '<' :: "/loc>".toList) := by
  have marked : ∀ openTag address closeTag front back : Text,
      openTag = '<' :: front → closeTag = '<' :: back →
      openTag ++ address ++ closeTag = '<' :: ((front ++ address) ++ '<' :: back) := by
    rintro _ address _ front back rfl rfl
    simp
  exact marked _ _ _ _ _ rfl rfl

theorem item_eq (url : Text) :
    item url = "  <url>\n    ".toList ++ location url ++ "\n  </url>\n".toList := by
  have regroup : ∀ start feed before address behind ending first openTag closeTag last : Text,
      start ++ feed ++ before = first ++ openTag →
      behind ++ feed ++ ending ++ feed = closeTag ++ last →
      (start ++ feed) ++ ((before ++ address ++ behind ++ feed) ++ ((ending ++ feed) ++ [])) =
        first ++ (openTag ++ address ++ closeTag) ++ last := by
    intro start feed before address behind ending first openTag closeTag last front back
    calc (start ++ feed) ++ ((before ++ address ++ behind ++ feed) ++ ((ending ++ feed) ++ []))
        = (start ++ feed ++ before) ++ address ++ (behind ++ feed ++ ending ++ feed) := by
          simp only [List.append_assoc, List.append_nil]
      _ = first ++ (openTag ++ address ++ closeTag) ++ last := by
          rw [front, back]
          simp only [List.append_assoc]
  exact regroup "  <url>" "\n" "    <loc>" (Markup.escape url) "</loc>" "  </url>"
    "  <url>\n    " "<loc>" "</loc>" "\n  </url>\n" (by decide) (by decide)

theorem text_eq (urls : List Text) :
    text urls = opening ++ (urls.flatMap item ++ "</urlset>".toList) := by
  have ends : ending = ["</urlset>".toList] := rfl
  have items : (urls.flatMap urlLines).flatMap (· ++ "\n".toList) = urls.flatMap item := by
    rw [List.flatMap_assoc]
    rfl
  rw [text, ends, Text.join_append_singleton, List.flatMap_append, items, List.append_assoc,
    opening]

/-- Between the bracket that begins an address and the one that ends it there is none. -/
theorem unmarked (url : Text) : '<' ∉ "loc>".toList ++ Markup.escape url := by
  rw [List.mem_append, not_or]
  exact ⟨by decide, Markup.not_mem_escape url⟩

theorem mem_of_part (member : "loc>".toList ++ Markup.escape url ∈
      Text.splitOn (· = '<') (urls.flatMap item ++ "</urlset>".toList)) : url ∈ urls := by
  induction urls with
  | nil =>
      have ended : Text.splitOn (· = '<') "</urlset>".toList = [[], "/urlset>".toList] := by decide
      rw [List.flatMap_nil, List.nil_append, ended] at member
      simp at member
  | cons first urls ih =>
      have parted : (first :: urls).flatMap item ++ "</urlset>".toList =
          "  <url>\n    ".toList ++ '<' :: (("loc>".toList ++ Markup.escape first) ++ '<' ::
            (("/loc>".toList ++ "\n  </url>\n".toList) ++
              (urls.flatMap item ++ "</urlset>".toList))) := by
        rw [List.flatMap_cons, item_eq, location_eq]
        simp only [List.append_assoc, List.cons_append]
      have early : Text.splitOn (· = '<') "  <url>\n    ".toList =
          ["  ".toList, "url>\n    ".toList] := by decide
      have late : Text.splitOn (· = '<') ("/loc>".toList ++ "\n  </url>\n".toList) =
          ["/loc>\n  ".toList] ++ ["/url>\n".toList] := by decide
      rw [parted, Text.splitOn_append_mark, Text.splitOn_append_mark,
        Text.splitOn_eq_singleton (unmarked first), early] at member
      rcases List.mem_append.1 member with before | behind
      · simp at before
      · rcases List.mem_append.1 behind with here | further
        · rw [Markup.escape_injective (List.append_cancel_left (List.mem_singleton.1 here))]
          exact List.mem_cons_self
        · exact List.mem_cons_of_mem _ (ih (Text.mem_splitOn_of_append late (by decide)
            (by simp) further))

/-- A sitemap has the element of an address exactly if the address is listed. -/
theorem location_infix_text_iff : location url <:+: text urls ↔ url ∈ urls := by
  rw [text_eq]
  constructor
  · rintro ⟨before, after, whole⟩
    -- Cut at the brackets, the text has the address as a part, and the heading has no such part.
    have parted : before ++ location url ++ after =
        before ++ '<' :: (("loc>".toList ++ Markup.escape url) ++ '<' ::
          ("/loc>".toList ++ after)) := by
      simp only [location_eq, List.append_assoc, List.cons_append]
    have front : Text.splitOn (· = '<') opening =
        [[], "?xml version=\"1.0\" encoding=\"UTF-8\"?>\n".toList] ++
          ["urlset xmlns=\"http://www.sitemaps.org/schemas/sitemap/0.9\">\n".toList] := by
      decide +kernel
    refine mem_of_part (Text.mem_splitOn_of_append front (by decide) (by simp) ?_)
    rw [← whole, parted, Text.splitOn_append_mark, Text.splitOn_append_mark,
      Text.splitOn_eq_singleton (unmarked url)]
    simp
  · intro listed
    obtain ⟨front, back, rfl⟩ := List.append_of_mem listed
    refine ⟨opening ++ front.flatMap item ++ "  <url>\n    ".toList,
      "\n  </url>\n".toList ++ back.flatMap item ++ "</urlset>".toList, ?_⟩
    rw [List.flatMap_append, List.flatMap_cons, item_eq]
    simp only [List.append_assoc]

end Sitemap

end StaticSite
