import ClassDiagram.Text.Basic

/-!
# Sample sources

Source texts for trying out the library: one with any number of classes that extend each other in a
chain, and two fixed ones.
-/
namespace ClassDiagram.Sample
open Text

def baseOf : Nat → String
  | 0 => "outer::inner::Seed"
  | i + 1 => s!"C{i}"

def openingLines : List String := [
  "enum TopEnum \x7b E0, E1, E2, E3 \x7d;",
  "namespace outer \x7b",
  "namespace inner \x7b",
  "  class Seed \x7b public: int x; int arr[4]; \x7d;",
  "  struct SeedStruct \x7b int a; Seed s; Seed* sp; \x7d;",
  "  enum SeedEnum \x7b SA, SB \x7d;",
  "\x7d",
  "\x7d"]

/-- The lines of class number `i`. Every third one is a template, every fourth one abstract. -/
def classLines (i : Nat) : List String :=
  let base := baseOf i
  (if i % 3 = 0 then [s!"template<typename T{i}>"] else [])
  ++ [s!"class C{i} : public {base} \x7b",
    "public:",
    s!"  C{i}();",
    s!"  ~C{i}();",
    s!"  static bool sFlag{i};",
    s!"  int pubVar{i};",
    s!"  int arrVar{i}[8];",
    s!"  bool pubMethod{i}(const {base}& other, int k) const;",
    s!"  static int sMethod{i}(int z);"]
  ++ (if i % 4 = 0 then [s!"  virtual int absM{i}(int p) = 0;"] else [])
  ++ [s!"  int* ptrMethod{i}();",
    s!"  int& refMethod{i}();",
    s!"  enum InnerE{i} \x7b IA{i}, IB{i} \x7d;",
    s!"  class Nested{i} \x7b public: int nv; {base}* back; \x7d;",
    "protected:",
    s!"  {base} _compMember{i};",
    s!"  {base}* _aggMember{i};",
    s!"  std::unique_ptr<{base}> _uptr{i};",
    "private:",
    s!"  TopEnum _ev{i};",
    s!"  {base} _dup{i};",
    "\x7d;"]

def closingLines : List String := [
  "union AnonU \x7b",
  "  struct \x7b float x; float y; \x7d;",
  "  float v[2];",
  "\x7d;",
  "namespace deep::deeper::deepest \x7b",
  "  class Leaf : public C0 \x7b public: C0 c; \x7d;",
  "\x7d"]

def chain (n : Nat) : Text :=
  ofLines (openingLines ++ (List.range n).flatMap classLines ++ closingLines)

def nested : Text := ofLines [
  "",
  "namespace alpha \x7b",
  "  class Base \x7b",
  "  public:",
  "    virtual void vfun() = 0;",
  "    void takeOther(Other o);",
  "    Base& operator=(const Base&) = delete;",
  "  protected:",
  "    int _pv;",
  "  \x7d;",
  "  class Other \x7b public: int o; \x7d;",
  "  class Derived : public Base \x7b",
  "  public:",
  "    void vfun() override;",
  "    Other _o1;",
  "    Other _o2;",
  "    Other* _op;",
  "  private:",
  "    class Inner \x7b",
  "      class InnerInner \x7b int z; \x7d;",
  "      int w;",
  "    \x7d;",
  "    enum E \x7b X, Y, Z \x7d;",
  "  \x7d;",
  "\x7d"]

def small : Text := ofLines [
  "class FA \x7b public: int x; FB* p; void m(FB b); \x7d;",
  "class FB : public FA \x7b int y; \x7d;",
  "enum FE \x7b Q, R \x7d;"]

end ClassDiagram.Sample
