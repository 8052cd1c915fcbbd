import RecordFilter.Schema.Record
import RecordFilter.Store.Database

/-!
# RecordFilter.Catalog.Catalog

The sample catalog: products with a supplier each, and the suppliers.
-/

namespace RecordFilter
namespace Catalog

open Number (IntegerWidth)

/-! ## Record types -/

def produtos : String := "produtos"

def fornecedores : String := "fornecedores"

def statusProduto : FieldType := .choice "StatusProduto" ["ATIVO", "INATIVO", "DESCONTINUADO"]

def fornecedoresSchema : Schema :=
  (((Schema.empty fornecedores).scalar "id" (.integer .bits64)).scalar "nome" .text).scalar
    "cidade" .text

def produtosScalars : List (String × FieldType) :=
  [("id", .integer .bits64),
    ("nome", .text),
    ("descricao", .text),
    ("categoria", .text),
    ("subcategoria", .text),
    ("preco", .decimal),
    ("estoque", .integer .bits32),
    ("peso", .double),
    ("avaliacao", .single),
    ("prioridade", .integer .bits16),
    ("codigoBarras", .integer .unbounded),
    ("ativo", .boolean),
    ("status", statusProduto),
    ("dataCriacao", .date),
    ("atualizadoEm", .dateTime),
    ("sku", .other "uuid"),
    ("dto", .json)]

def produtosSchema : Schema :=
  (produtosScalars.foldl (fun schema (name, type) => schema.scalar name type)
    (Schema.empty produtos)).relation "fornecedor" fornecedoresSchema

def registry : Registry :=
  Registry.register (Registry.register [] fornecedoresSchema) produtosSchema

/-! ## Sample records -/

/-- The number `coefficient / 10 ^ places`. -/
def number (coefficient places : Nat) : Json :=
  .float (Number.Binary.ofDecimal Number.binary64 false coefficient (-(places : Int)))

structure Fornecedor where
  id : Nat
  nome : String
  cidade : String

def Fornecedor.row (f : Fornecedor) : Json :=
  .object [("id", .nat f.id), ("nome", .string f.nome), ("cidade", .string f.cidade)]

def serraAzul : Fornecedor := ⟨1, "Distribuidora Serra Azul", "São Paulo"⟩

def valeVerde : Fornecedor := ⟨2, "Laticínios Vale Verde", "Belo Horizonte"⟩

def montanhes : Fornecedor := ⟨3, "Café Montanhês", "Poços de Caldas"⟩

def padariaSilva : Fornecedor := ⟨4, "Padaria Silva & Filhos", "Curitiba"⟩

def fornecedoresRows : List Json := [serraAzul, valeVerde, montanhes, padariaSilva].map Fornecedor.row

def endereco (cidade uf : String) : Json :=
  .object [("cidade", .string cidade), ("uf", .string uf)]

/-- What a supplier sends along with a product. -/
def dto (origem cidade uf : String) (tags : List String) : Json :=
  .object [("origem", .string origem), ("endereco", endereco cidade uf), ("tags", .texts tags)]

def cafe : Json :=
  .object
    [("id", .integer 1),
      ("nome", .string "Café Torrado Especial"),
      ("descricao", .string "Grãos arábica de torra média"),
      ("categoria", .string "Bebidas"),
      ("subcategoria", .string "Cafés"),
      ("preco", .string "34.90"),
      ("estoque", .integer 120),
      ("peso", number 5 1),
      ("avaliacao", number 48 1),
      ("prioridade", .integer 1),
      ("codigoBarras", .string "7891000100103"),
      ("ativo", .bool true),
      ("status", .string "ATIVO"),
      ("dataCriacao", .string "2023-02-14"),
      ("atualizadoEm", .string "2024-01-10T09:30:00"),
      ("sku", .string "5f0c6e2a-1b7d-4c1e-9a51-0c2f7b8d9e01"),
      ("fornecedor", montanhes.row),
      ("dto", dto "Sul de Minas" "Poços de Caldas" "MG" ["organico", "gourmet"])]

def suco : Json :=
  .object
    [("id", .integer 2),
      ("nome", .string "Suco de Laranja Integral"),
      ("descricao", .string "Sem adição de açúcar"),
      ("categoria", .string "Bebidas"),
      ("subcategoria", .string "Sucos"),
      ("preco", .string "12.50"),
      ("estoque", .integer 60),
      ("peso", number 10 1),
      ("avaliacao", number 42 1),
      ("prioridade", .integer 2),
      ("codigoBarras", .string "7891000100202"),
      ("ativo", .bool true),
      ("status", .string "ATIVO"),
      ("dataCriacao", .string "2023-06-01"),
      ("atualizadoEm", .string "2023-11-20T14:00:00"),
      ("sku", .string "1a2b3c4d-0000-4000-8000-000000000002"),
      ("fornecedor", serraAzul.row),
      ("dto", dto "Bebedouro" "São Paulo" "SP" ["natural"])]

def queijo : Json :=
  .object
    [("id", .integer 3),
      ("nome", .string "Queijo Minas Frescal"),
      ("descricao", .string "Queijo fresco artesanal"),
      ("categoria", .string "Laticínios"),
      ("subcategoria", .string "Queijos"),
      ("preco", .string "28.00"),
      ("estoque", .integer 15),
      ("peso", number 4 1),
      ("avaliacao", number 46 1),
      ("prioridade", .integer 1),
      ("codigoBarras", .string "7891000100301"),
      ("ativo", .bool true),
      ("status", .string "ATIVO"),
      ("dataCriacao", .string "2022-11-30"),
      ("atualizadoEm", .string "2023-12-05T08:15:00"),
      ("sku", .string "1a2b3c4d-0000-4000-8000-000000000003"),
      ("fornecedor", valeVerde.row),
      ("dto", dto "Serro" "Belo Horizonte" "MG" ["artesanal"])]

def paoDeQueijo : Json :=
  .object
    [("id", .integer 4),
      ("nome", .string "Pão de Queijo Congelado"),
      ("descricao", .string "Pacote com 1kg"),
      ("categoria", .string "Padaria"),
      ("subcategoria", .string "Congelados"),
      ("preco", .string "22.90"),
      ("estoque", .integer 0),
      ("peso", number 10 1),
      ("avaliacao", number 49 1),
      ("prioridade", .integer 3),
      ("codigoBarras", .string "7891000100400"),
      ("ativo", .bool false),
      ("status", .string "INATIVO"),
      ("dataCriacao", .string "2023-08-19"),
      ("atualizadoEm", .string "2024-02-01T17:45:00"),
      ("sku", .string "1a2b3c4d-0000-4000-8000-000000000004"),
      ("fornecedor", padariaSilva.row),
      ("dto", dto "Curitiba" "Curitiba" "PR" ["gourmet"])]

def cha : Json :=
  .object
    [("id", .integer 5),
      ("nome", .string "Chá Mate Gelado"),
      ("descricao", .string "Lata 350ml"),
      ("categoria", .string "Bebidas"),
      ("subcategoria", .string "Chás"),
      ("preco", .string "6.75"),
      ("estoque", .integer 240),
      ("peso", number 35 2),
      ("avaliacao", number 39 1),
      ("prioridade", .integer 2),
      ("codigoBarras", .string "7891000100509"),
      ("ativo", .bool true),
      ("status", .string "DESCONTINUADO"),
      ("dataCriacao", .string "2021-03-08"),
      ("atualizadoEm", .string "2022-09-30T10:00:00"),
      ("sku", .string "1a2b3c4d-0000-4000-8000-000000000005"),
      ("fornecedor", serraAzul.row),
      ("dto", dto "Rio de Janeiro" "Rio de Janeiro" "RJ" [])]

def iogurte : Json :=
  .object
    [("id", .integer 6),
      ("nome", .string "Iogurte Natural"),
      ("descricao", .null),
      ("categoria", .string "Laticínios"),
      ("subcategoria", .string "Iogurtes"),
      ("preco", .string "4.99"),
      ("estoque", .integer 80),
      ("peso", number 17 2),
      ("avaliacao", .null),
      ("prioridade", .integer 2),
      ("codigoBarras", .string "7891000100608"),
      ("ativo", .bool true),
      ("status", .string "ATIVO"),
      ("dataCriacao", .string "2023-12-31"),
      ("atualizadoEm", .string "2023-12-31T23:59:59"),
      ("sku", .string "1a2b3c4d-0000-4000-8000-000000000006"),
      ("fornecedor", valeVerde.row),
      ("dto", .object [("endereco", endereco "Belo Horizonte" "MG")])]

def produtosRows : List Json := [cafe, suco, queijo, paoDeQueijo, cha, iogurte]

def rows? (record : String) : Option (List Json) :=
  [(fornecedores, fornecedoresRows), (produtos, produtosRows)].lookup record

/-- The sample records. Other products may take the place of the sample ones. -/
def database (products : Store) : Database :=
  (Database.empty.insert fornecedores ⟨fornecedoresRows⟩).insert produtos products

def sampleDatabase : Database := database ⟨produtosRows⟩

end Catalog
end RecordFilter
