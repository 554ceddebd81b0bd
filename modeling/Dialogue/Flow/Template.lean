import Dialogue.Flow.Accept

/-!
# Built-in flows

The flows that come with the library, each under a category.
-/
namespace Dialogue

/-- A flow that comes with the library. Its id is the flow's. -/
structure Template where
  category : String
  flow : Flow
  deriving DecidableEq

namespace Template

def start (id label trigger : String) (keywords : List String) : Node :=
  ⟨id, "start", label, .start ⟨trigger, keywords, none⟩⟩

def message (id label : String) (delay : Int) (useClientName : Bool) (text : String) : Node :=
  ⟨id, "message", label, .message ⟨text, .ofInt delay, useClientName⟩⟩

def input (id label variableName : String) (expected : AnswerKind) (prompt : String) : Node :=
  ⟨id, "input", label, .input ⟨prompt, variableName, expected⟩⟩

def condition (id label : String) (branches : List Branch) : Node :=
  ⟨id, "condition", label, .condition ⟨"keyword", branches⟩⟩

def updateVista (id label propertyCode status : String) : Node :=
  ⟨id, "action", label, .action ⟨"update_vista", none, .null,
    [("propertyCode", .str propertyCode), ("status", .str status)], none, []⟩⟩

def setVariable (id label name value : String) : Node :=
  ⟨id, "action", label, .action ⟨"set_variable", some name, .str value, [], none, []⟩⟩

def escalation (id label department priority reason : String) : Node :=
  ⟨id, "escalation", label, .escalation ⟨department, priority, reason⟩⟩

def delay (id label : String) (duration : Int) (unit : DelayUnit) : Node :=
  ⟨id, "delay", label, .delay ⟨.ofInt duration, unit⟩⟩

def finish (id label message : String) : Node :=
  ⟨id, "end", label, .finish ⟨message, false⟩⟩

def edge (id source target : String) : Edge := ⟨some id, source, target, none, none⟩

/-- An edge that leaves by a branch. -/
def selected (id source selector target : String) : Edge :=
  ⟨some id, source, target, some selector, none⟩

/-- Asks an owner whether a property is still available and tells the CRM. -/
def propertyConfirmation : Template := ⟨"confirmacao", {
  id := "confirmacao-imovel"
  name := "Confirmação de Imóvel"
  description := "Confirma a disponibilidade do imóvel com o proprietário e atualiza o status no Vista."
  department := some "marketing"
  nodes := [
    start "start-1" "Início" "template_response" [],
    message "message-1" "Saudação" 1 true
      "Olá \x7b\x7bnome\x7d\x7d! Recebemos sua resposta. Poderia confirmar se o imóvel ainda está disponível?",
    condition "condition-1" "Verificar Resposta" [
      ⟨"no", "Indisponível", "no",
        some ["não", "nao", "vendido", "alugado", "indisponível"]⟩,
      ⟨"yes", "Disponível", "yes",
        some ["sim", "disponível", "ainda", "confirmo"]⟩],
    updateVista "action-1" "Atualizar Vista - Disponível" "\x7b\x7bcodigo_imovel\x7d\x7d" "disponivel",
    updateVista "action-2" "Atualizar Vista - Indisponível" "\x7b\x7bcodigo_imovel\x7d\x7d" "indisponivel",
    message "message-2" "Confirmação Positiva" 0 false
      "Perfeito! Atualizamos o status do imóvel como disponível. Obrigada pela confirmação!",
    message "message-3" "Confirmação Negativa" 0 false
      "Entendido! Atualizamos o status do imóvel. Obrigada pela informação!",
    finish "end-1" "Fim" "Tenha um ótimo dia!"]
  edges := [
    edge "e1" "start-1" "message-1",
    edge "e2" "message-1" "condition-1",
    selected "e3" "condition-1" "yes" "action-1",
    selected "e4" "condition-1" "no" "action-2",
    edge "e5" "action-1" "message-2",
    edge "e6" "action-2" "message-3",
    edge "e7" "message-2" "end-1",
    edge "e8" "message-3" "end-1"]}⟩

/-- Sorts leads by what they look for and notes the budget of buyers. -/
def leadQualification : Template := ⟨"qualificacao", {
  id := "qualificacao-lead"
  name := "Qualificação de Lead"
  description := "Pergunta se o lead busca compra ou locação, registra o orçamento e direciona ao departamento."
  department := some "marketing"
  nodes := [
    start "start-1" "Início" "first_message" [],
    message "message-1" "Boas Vindas" 2 false
      "Olá \x7b\x7bnome\x7d\x7d! Seja bem-vindo(a) à nossa imobiliária!",
    condition "condition-1" "Tipo de Interesse" [
      ⟨"compra", "Compra", "compra",
        some ["compra", "comprar", "adquirir", "investir", "investimento"]⟩,
      ⟨"locacao", "Locação", "locacao",
        some ["aluguel", "alugar", "locação", "locacao"]⟩],
    input "input-1" "Orçamento" "orcamento" .currency
      "Qual o valor aproximado que você pretende investir?",
    setVariable "action-1" "Marcar Comprador" "interesse" "compra",
    setVariable "action-2" "Marcar Inquilino" "interesse" "locacao",
    escalation "escalation-1" "Escalar para Vendas" "vendas" "medium"
      "Lead interessado em compra - qualificado automaticamente",
    escalation "escalation-2" "Escalar para Locação" "locacao" "medium"
      "Lead interessado em locação - qualificado automaticamente",
    finish "end-1" "Fim" "Obrigado, \x7b\x7bnome\x7d\x7d! Um corretor vai falar com você em breve."]
  edges := [
    edge "e1" "start-1" "message-1",
    edge "e2" "message-1" "condition-1",
    selected "e3" "condition-1" "branch-0" "input-1",
    selected "e4" "condition-1" "branch-1" "action-2",
    edge "e5" "input-1" "action-1",
    edge "e6" "action-1" "escalation-1",
    edge "e7" "action-2" "escalation-2",
    edge "e8" "escalation-1" "end-1",
    edge "e9" "escalation-2" "end-1"]}⟩

/-- Answers questions about opening hours and address, and hands the rest on. -/
def frequentQuestions : Template := ⟨"atendimento", {
  id := "faq-automatico"
  name := "FAQ Automático"
  description := "Responde perguntas sobre horário e endereço e escala para humano quando não identifica a pergunta."
  department := some "administrativo"
  nodes := [
    start "start-1" "Início" "keyword" ["horário", "endereço", "telefone", "contato"],
    condition "condition-1" "Tipo de Pergunta" [
      ⟨"horario", "Horário", "horario",
        some ["horário", "horario", "hora", "funciona", "atendimento"]⟩,
      ⟨"endereco", "Endereço", "endereco",
        some ["endereço", "endereco", "onde", "localização", "fica"]⟩,
      ⟨"outro", "Outro", "outro",
        some []⟩],
    message "message-1" "Resposta Horário" 0 false
      "Nosso horário de atendimento: segunda a sexta, 9h às 18h; sábado, 9h às 13h.",
    message "message-2" "Resposta Endereço" 0 false
      "Nosso endereço: Rua Example, 123 - Centro.",
    escalation "escalation-1" "Escalar Atendimento" "administrativo" "low"
      "Pergunta não identificada pelo FAQ automático",
    finish "end-1" "Fim" ""]
  edges := [
    edge "e0" "start-1" "condition-1",
    edge "e1" "condition-1" "escalation-1",
    selected "e2" "condition-1" "horario" "message-1",
    selected "e3" "condition-1" "endereco" "message-2",
    edge "e4" "message-1" "end-1",
    edge "e5" "message-2" "end-1",
    edge "e6" "escalation-1" "end-1"]}⟩

/-- Takes a date for a visit and hands it to a broker. -/
def visitScheduling : Template := ⟨"vendas", {
  id := "agendamento-visita"
  name := "Agendamento de Visita"
  description := "Inicia o agendamento de visita e escala para corretor com prioridade alta."
  department := some "vendas"
  nodes := [
    start "start-1" "Início" "keyword" ["visita", "agendar", "ver", "conhecer"],
    message "message-1" "Confirmar Interesse" 1 false
      "Ótimo! Você gostaria de agendar uma visita ao imóvel?",
    input "input-1" "Data Preferida" "data_visita" .text
      "Por favor, me informe qual dia e horário seria melhor para você.",
    delay "delay-1" "Aguardar Corretor" 5 .minutes,
    escalation "escalation-1" "Escalar para Corretor" "vendas" "high"
      "Cliente deseja agendar visita - prioridade alta"]
  edges := [
    edge "e1" "start-1" "message-1",
    edge "e2" "message-1" "input-1",
    edge "e3" "input-1" "delay-1",
    edge "e4" "delay-1" "escalation-1"]}⟩

def all : List Template :=
  [propertyConfirmation, leadQualification, frequentQuestions, visitScheduling]

def find? (id : String) : Option Template := all.find? (·.flow.id = id)

def inCategory (category : String) : List Template := all.filter (·.category = category)

/-- The flow a session runs when it is given none. -/
def defaultId : String := "confirmacao-imovel"

/-- The message for an id that no template has. -/
def unknownMessage (id : String) : String := Text.quote ("Unknown flow template: " ++ id)

/-- Every built-in flow keeps the rules of a graph. -/
theorem breach?_eq_none {t : Template} (h : t ∈ all) : t.flow.breach? = none := by
  simp only [all, List.mem_cons, List.not_mem_nil, or_false] at h
  rcases h with rfl | rfl | rfl | rfl <;> decide +kernel

end Template
end Dialogue
