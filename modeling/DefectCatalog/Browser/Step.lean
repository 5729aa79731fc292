import DefectCatalog.Browser.Drawing

/-!
# Steps of the browser

What can happen to the browser, as data, so that a run is a list.
-/

namespace DefectCatalog.Browser

/-- What can happen to the browser. -/
inductive Step where
  | key (event : KeyEvent)
  | mouse (event : MouseEvent)
  | loadedRecords (result : Except CatalogError (List Record))
  | loadedTaxonomy (result : Except CatalogError Taxonomy)
  | enterAt (route : Route)
  /-- A frame; if it has no picture, the program ends with it. -/
  | draw (width height : Nat)
  /-- Operations on the view, which the browser follows together. -/
  | view (operations : List View.Operation)

/-- The browser after a step. -/
def step (b : Browser) : Step → Browser
  | .key event => b.handleKey event
  | .mouse event => b.handleMouse event
  | .loadedRecords result => b.takeRecords result
  | .loadedTaxonomy result => b.takeTaxonomy result
  | .enterAt route => b.enterAt route
  | .draw width height => (b.draw width height).2
  | .view operations => b.actAll operations

/-- The browser after steps. -/
def run (b : Browser) (steps : List Step) : Browser :=
  steps.foldl step b

end DefectCatalog.Browser
