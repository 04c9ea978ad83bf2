import Parken.Lib.Runs
import Parken.Entities
import Parken.Garage
import Parken.Carteira
import Parken.Confirmacao
import Parken.Home.Model
import Parken.Home.ParkingList
import Parken.Home.Tables
import Parken.Pedido
import Parken.Historico
import Parken.App
import Parken.Requisicoes
import Parken.Entregas
import Parken.Prosseguir
import Parken.Vagas
import Parken.Vinculo
import Parken.Escritas
import Parken.Access
import Parken.Home.Map
import Parken.Home.Search
import Parken.Home.Segue
import Parken.Home.Suggestions
import Parken.Lib.Numeral
import Parken.NovaVaga
import Parken.Precos
import Parken.Checkouts
import Parken.Aprovacoes
import Parken.Cadastro
import Parken.Chaves
import Parken.Home.Favourites
import Parken.Home.Panels
import Parken.Disco
import Parken.Formularios
import Parken.Listas
import Parken.VisualizarVaga
import Parken.Lib.Mask
import Parken.Mascara
import Parken.Digitos
import Parken.Documentos
import Parken.Lib.CharClass
import Parken.Email
import Parken.Falhas
import Parken.Contas
import Parken.Escolha
import Parken.Edicoes
import Parken.Orfas
import Parken.Ciclo
import Parken.Respostas
import Parken.Independencia
import Parken.Caminho
