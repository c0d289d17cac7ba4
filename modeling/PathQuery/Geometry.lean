import PathQuery.Sql.Basic

/-!
# Geometry conditions

`Geometry` says how the four geometry operators are written for a column and a GeoJSON parameter;
`Geometry.postgis` writes them for PostGIS.
-/

namespace PathQuery

structure Geometry where
  intersects : Sql.Column → Param → Sql.Predicate
  notIntersects : Sql.Column → Param → Sql.Predicate
  intersectsBox : Sql.Column → Param → Sql.Predicate
  notIntersectsBox : Sql.Column → Param → Sql.Predicate

namespace Geometry

/-- A column and the geometry of a parameter, with text before, between and after them. -/
def call (before between after : String) (c : Sql.Column) (geojson : Param) : Sql.Predicate :=
  .raw [.text before, .column c, .text (between ++ "ST_GeomFromGeoJSON("), .column (.param geojson),
    .text (")" ++ after)]

def postgis : Geometry where
  intersects := call "ST_Intersects(" ", " ")"
  notIntersects := call "NOT ST_Intersects(" ", " ")"
  intersectsBox := call "" " && " ""
  notIntersectsBox := call "NOT (" " && " ")"

end Geometry

end PathQuery
