/-
This file models how the listings are cut into pages.

A query answers with a list of rows, and the paging services choose the window of it
that a request gets. Offsets and limits are the 32-bit integers of the request, so the
absolute value of the least one is that integer itself.
-/

import Mathlib.Data.List.Basic

namespace GraffiTab

/-- `Math.abs` on 32-bit integers. -/
def mathAbs (value : Int) : Int := if value = -2147483648 then value else value.natAbs

/-- What Hibernate lists of a query with a first result and a maximum of results: a first result
that is not positive skips nothing, and a maximum that is not positive is no limit. -/
def queryList {Row : Type} (rows : List Row) (firstResult maxResults : Int) : List Row :=
  if maxResults ≤ 0 then rows.drop firstResult.toNat
  else (rows.drop firstResult.toNat).take maxResults.toNat

/-- A page with the values that its request was understood to ask for. -/
structure PagedList (Row : Type) where
  items : List Row
  resultsCount : Nat
  offset : Int
  limit : Int
  deriving DecidableEq

/-- The page of a service with the given sizes. -/
def getPage {Row : Type} (defaultSize maxSize : Int) (rows : List Row)
    (offset limit : Option Int) : PagedList Row :=
  let offset := (offset.map mathAbs).getD 0
  let limit := (limit.map mathAbs).getD defaultSize
  let limit := if limit > maxSize then maxSize else limit
  let items := queryList rows offset limit
  { items, resultsCount := items.length, offset, limit }

def pageSizeDefaultValue : Int := 10
def pageSizeMaxValue : Int := 20
def pageSizeMaxValueLocation : Int := 50
def pageSizeDefaultValueLocation : Int := pageSizeMaxValueLocation

/-- `PagingService.getItems`. -/
def getItems {Row : Type} (rows : List Row) (offset limit : Option Int) : PagedList Row :=
  getPage pageSizeDefaultValue pageSizeMaxValue rows offset limit

/-- `LocationsPagingService.getItems`. -/
def getLocationItems {Row : Type} (rows : List Row) (offset limit : Option Int) : PagedList Row :=
  getPage pageSizeDefaultValueLocation pageSizeMaxValueLocation rows offset limit

/-- The page with each of its rows mapped to what the request gets to see. -/
def PagedList.map {Row Dto : Type} (toDto : Row → Dto) (page : PagedList Row) : PagedList Dto :=
  { page with items := page.items.map toDto }

theorem mem_queryList {Row : Type} {rows : List Row} {firstResult maxResults : Int} {row : Row}
    (member : row ∈ queryList rows firstResult maxResults) : row ∈ rows := by
  unfold queryList at member
  split at member
  · exact List.mem_of_mem_drop member
  · exact List.mem_of_mem_drop (List.mem_of_mem_take member)

theorem mem_getPage {Row : Type} {defaultSize maxSize : Int} {rows : List Row}
    {offset limit : Option Int} {row : Row}
    (member : row ∈ (getPage defaultSize maxSize rows offset limit).items) : row ∈ rows :=
  mem_queryList member

theorem PagedList.map_congr {Row Dto : Type} {toDto other : Row → Dto} {page : PagedList Row}
    (agree : ∀ row ∈ page.items, toDto row = other row) : page.map toDto = page.map other := by
  unfold PagedList.map
  rw [List.map_congr_left agree]

/-- The least limit stays negative, so that the page has all the rows. -/
theorem getItems_leastLimit {Row : Type} (rows : List Row) :
    (getItems rows none (some (-2147483648))).items = rows := by
  rfl

end GraffiTab
