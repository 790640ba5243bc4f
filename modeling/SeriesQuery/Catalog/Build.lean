import SeriesQuery.Catalog
import SeriesQuery.Store.Basic

/-!
# Catalogs over a store

A catalog is built for a store when the store has every collection that a target reads. Collections
are asked for by code point, so the first that is missing is the smallest.
-/

namespace SeriesQuery.Catalog

variable {σ : Type}

/-- Asks a store for collections, up to the first that it does not have. -/
def checkCollections (store : DocumentStore σ) : List String → Effect σ CatalogError Unit
  | [] => pure ()
  | name :: names => do
    if ← (store.hasCollection name).mapError CatalogError.store then checkCollections store names
    else throw (.unknownCollection name)

/-- The catalog of some settings over a store. -/
def build (d : Datasource) (store : DocumentStore σ) : Effect σ CatalogError Catalog := do
  let catalog ← Effect.ofExcept (expand d)
  checkCollections store catalog.collections
  return catalog

end SeriesQuery.Catalog
