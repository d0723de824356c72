import RecordSchema.Project.Basic

namespace RecordSchema.Project

def lines (ls : List String) : String :=
  String.join (ls.map (· ++ "\n"))

def firstOfCycle : String := lines [
    "(package-begin x.y.a)",
    "(import x.y.b as b)",
    "(record A [(field other b.B)])",
    "(package-end)"]

def secondOfCycle : String := lines [
    "(package-begin x.y.b)",
    "(import x.y.a as a)",
    "(record B [(field other a.A)])",
    "(package-end)"]

def circularImports : Project :=
  let p := addPackage { name := "circular-imports" } "x.y.a" firstOfCycle
  let p := addPackage p "x.y.b" secondOfCycle
  { checkPackage p "x.y.a" with expected := .diagnostics [
      "Circular import: x.y.a -> x.y.b -> x.y.a",
      "Error loading package `x.y.a`",
      "Error loading package `x.y.b`"] }

def mathPackage : String := lines [
    "; basic vector types",
    "(package-begin com.example.math)",
    "(record Vec2 [(field x (float 32)) (field y (float 32))])",
    "(record Mat2 [(field m (matrix (float 32) 2 2))])",
    "(package-end)"]

def colorPackage : String := lines [
    "(package-begin com.example.color)",
    "(packed Rgb565 [(field r (integer unsigned-normalized 5))",
    "                (field g (integer unsigned-normalized 6))",
    "                (field b (integer unsigned-normalized 5))])",
    "(package-end)"]

def shapesPackage : String := lines [
    "(package-begin com.example.shapes)",
    "(import com.example.math as m)",
    "(import com.example.color as c)",
    "(record Circle [(field centre m.Vec2)",
    "                (field radius (float 32))",
    "                (field fill c.Rgb565)",
    "                (padding-octets 2)])",
    "(union Shape [(case circle Circle) (case point m.Vec2)])",
    "(record Tagged [(field kind (integer unsigned 8))",
    "                (padding-octets 3)",
    "                (field shape Shape)",
    "                (field name (string 16 \"UTF-8\"))",
    "                (field flags (boolean-set 1 [visible selected]))])",
    "(:type (type-of Circle centre.x))",
    "(:size (size-in-octets Tagged))",
    "(package-end)"]

def shapesLibrary : Project :=
  let p := addPackage { name := "shapes-library" } "com.example.math" mathPackage
  let p := addPackage p "com.example.color" colorPackage
  let p := addPackage p "com.example.shapes" shapesPackage
  checkPackage (checkPackage p "com.example.shapes") "com.example.math"

end RecordSchema.Project
